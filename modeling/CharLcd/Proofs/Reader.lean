import CharLcd.Lists
import CharLcd.Proofs.Json.Document
import CharLcd.Proofs.Json.Number
import CharLcd.Reader.Basic

/-!
# Reading what has been written

- `natural_toDigits`, `choice_name`, `listOf_map`: numbers, names and lists.
- `Record.foldlM_readMember`: a member that is a field.
- `Record.Holds`: what an object gives for a name; `Record.Settles`: what a value does to a record.
- `Record.exists_read`: an object whose members come in any order, between members that are no
  fields. `Record.Due` says what is known while they are read.
- `document_of_spells`: a text that spells a value.
-/

namespace CharLcd

namespace Reader

open Json

theorem natural_toDigits {limit : Nat} (wanted : String) {n : Nat} (h : n ≤ limit)
    (hlimit : limit ≤ largestSignificand) :
    natural limit wanted (.number (Nat.toDigits 10 n)) = .ok n := by
  have hrange : 0 ≤ (n : Int) ∧ (n : Int) ≤ limit := by omega
  rw [natural, Number.ofSpelling?_toDigits (Nat.le_trans h hlimit)]
  show (if 0 ≤ (n : Int) ∧ (n : Int) ≤ limit then _ else _) = _
  rw [if_pos hrange]
  rfl

/-! ## Names and lists -/

section

variable {α : Type} {name : α → String} {all : List α} {a : α}

/-- An item is found by its name when no other item has it. -/
theorem find?_name (h : a ∈ all) (hname : ∀ b, name b = name a → b = a) :
    all.find? (fun b => name b = name a) = some a := by
  cases hfound : all.find? (fun b => name b = name a) with
  | none => exact absurd (decide_eq_true rfl) (List.find?_eq_none.mp hfound a h)
  | some b =>
    have hb := List.find?_some (p := fun b => decide (name b = name a)) hfound
    rw [hname b (of_decide_eq_true hb)]

/-- An item is read from its name when no other item has it. -/
theorem choice_name (h : a ∈ all) (hname : ∀ b, name b = name a → b = a) :
    choice name all (.string (some (name a))) = .ok a := by
  rw [choice, variant, find?_name h hname]

end

/-- A list is read when each of its items is. -/
theorem listOf_map {α : Type} {item : Value → Reads α} {value : α → Value} {xs : List α}
    (h : ∀ x ∈ xs, item (value x) = .ok x) :
    listOf item (.array (xs.map value) .closed) = .ok xs := by
  have hmap : (xs.map value).mapM item = .ok xs := by
    rw [List.mapM_map, mapM_eq_pure_map (f := item ∘ value) (g := id) h, List.map_id]
    rfl
  rw [listOf, hmap]
  rfl

/-! ## Records -/

/-- Reading goes on with what has been read. -/
theorem bind_eq_of_ok {α β : Type} {x : Reads α} {a : α} (h : x = .ok a) (f : α → Reads β) :
    x >>= f = f a := by
  rw [h]
  rfl

/-- Reading a member that is a field and comes for the first time. -/
theorem Record.foldlM_readMember {σ : Type} {r : Record σ} {f : Field σ} {key : String}
    {value : Value} {s : σ} {seen : List String} (after : σ)
    (hfield : r.fields.find? (·.name = key) = some f) (hseen : key ∉ seen)
    (hread : f.read value s = .ok after) (members : List (Option String × Value)) :
    ((some key, value) :: members).foldlM r.readMember ⟨s, seen⟩ =
      members.foldlM r.readMember ⟨after, key :: seen⟩ := by
  have hmember : r.readMember ⟨s, seen⟩ (some key, value) = .ok ⟨after, key :: seen⟩ := by
    simp only [readMember, hfield, if_neg hseen, hread]
    rfl
  rw [List.foldlM_cons, hmember]
  rfl

/-! ## Members in any order -/

namespace Record

section

variable {σ ι : Type} {r : Record σ} {name : ι → String} {Same : ι → σ → Prop}
  {members : List (String × Value)} {given : Option Value}

/-- What members give for a name: one value, or none. -/
def Holds (members : List (String × Value)) (name : String) (given : Option Value) : Prop :=
  members.filter (·.1 = name) = (given.map (name, ·)).toList

theorem Holds.mem {key : String} {v : Value} (h : Holds members key (some v)) :
    (key, v) ∈ members := by
  have hmem : (key, v) ∈ members.filter (·.1 = key) := by
    rw [h]
    exact List.mem_cons_self
  exact (List.mem_filter.mp hmem).1

theorem holds_cons_self {key : String} {v : Value} :
    Holds ((key, v) :: members) key given ↔ given = some v ∧ Holds members key none := by
  rw [Holds, Holds, List.filter_cons_of_pos (by exact decide_eq_true rfl)]
  cases given with
  | none => exact iff_of_false nofun nofun
  | some w =>
    constructor
    · intro h
      obtain ⟨hvalue, hrest⟩ := List.cons.inj h
      exact ⟨congrArg some (Prod.mk.inj hvalue).2.symm, hrest⟩
    · rintro ⟨hvalue, hrest⟩
      rw [hrest, Option.some.inj hvalue]
      rfl

theorem holds_cons_of_ne {key other : String} (v : Value) (h : other ≠ key) :
    Holds ((other, v) :: members) key given ↔ Holds members key given := by
  rw [Holds, Holds, List.filter_cons_of_neg (by simpa using h)]

/-- Names for the parts of what is read, one for each field of the record. None of the fields has to
be given. -/
structure Named (r : Record σ) (name : ι → String) : Prop where
  injective : ∀ i j, name i = name j → i = j
  find? : ∀ i, ∃ f, r.fields.find? (·.name = name i) = some f
  all : ∀ f ∈ r.fields, ∃ i, name i = f.name
  optional : ∀ f ∈ r.fields, f.optional = true

/-- A value settles a part of what is read: once it has been read for a field, that part is as it
should be, and so is every part that was before. -/
def Settles (Same : ι → σ → Prop) (i : ι) (f : Field σ) (v : Value) : Prop :=
  ∀ s, ∃ s', f.read v s = .ok s' ∧ Same i s' ∧ ∀ j, Same j s → Same j s'

/-- A part is as it should be, and no member changes it, or one member is going to settle it. -/
def Due (r : Record σ) (name : ι → String) (Same : ι → σ → Prop) (members : List (String × Value))
    (p : Progress σ) (i : ι) : Prop :=
  (Holds members (name i) none ∧ Same i p.state) ∨
    ∃ v f, Holds members (name i) (some v) ∧ name i ∉ p.seen ∧
      r.fields.find? (·.name = name i) = some f ∧ Settles Same i f v

section

variable {key : String} {v : Value} {p : Progress σ} {i j : ι}

/-- A member that is no field settles nothing. -/
theorem Due.skip (h : r.Due name Same ((key, v) :: members) p i) (hnamed : r.Named name)
    (hkey : r.fields.find? (·.name = key) = none) : r.Due name Same members p i := by
  have hne : key ≠ name i := by
    rintro rfl
    obtain ⟨f, hf⟩ := hnamed.find? i
    cases hf.symm.trans hkey
  simpa only [Due, holds_cons_of_ne v hne] using h

/-- A member that settles one part leaves the others to the rest. -/
theorem Due.other (h : r.Due name Same ((key, v) :: members) p j) (hne : key ≠ name j) {s : σ}
    (hkeep : Same j p.state → Same j s) : r.Due name Same members ⟨s, key :: p.seen⟩ j := by
  rcases h with ⟨hnone, hsame⟩ | ⟨w, f, hsome, hseen, hfind, hsettles⟩
  · exact .inl ⟨(holds_cons_of_ne v hne).mp hnone, hkeep hsame⟩
  · exact .inr ⟨w, f, (holds_cons_of_ne v hne).mp hsome,
      List.not_mem_cons_of_ne_of_not_mem hne.symm hseen, hfind, hsettles⟩

/-- The member of a part comes for the first time, and settles it. -/
theorem Due.own (h : r.Due name Same ((name i, v) :: members) p i) :
    Holds members (name i) none ∧ name i ∉ p.seen ∧
      ∃ f, r.fields.find? (·.name = name i) = some f ∧ Settles Same i f v := by
  rcases h with ⟨hnone, -⟩ | ⟨w, f, hsome, hseen, hfind, hsettles⟩
  · cases (holds_cons_self.mp hnone).1
  · obtain ⟨hw, hrest⟩ := holds_cons_self.mp hsome
    obtain rfl := Option.some.inj hw
    exact ⟨hrest, hseen, f, hfind, hsettles⟩

end

/-- One member after which the other members have to do the rest. -/
theorem readMember_due (hnamed : r.Named name) {m : String × Value} {p : Progress σ}
    (hskip : m.2.skipFault? = none) (h : ∀ i, r.Due name Same (m :: members) p i) :
    ∃ p', r.readMember p (some m.1, m.2) = .ok p' ∧ ∀ i, r.Due name Same members p' i := by
  obtain ⟨key, v⟩ := m
  cases hfind : r.fields.find? (·.name = key) with
  | none =>
    refine ⟨p, ?_, fun i => (h i).skip hnamed hfind⟩
    simp only [readMember, hfind, hskip]
    rfl
  | some f =>
    have hf := of_decide_eq_true (List.find?_some (p := fun f : Field σ => f.name = key) hfind)
    obtain ⟨i, hi⟩ := hnamed.all f (List.mem_of_find?_eq_some hfind)
    obtain rfl := hi.trans hf
    obtain ⟨hrest, hseen, f', hfind', hsettles⟩ := (h i).own
    obtain rfl := Option.some.inj (hfind.symm.trans hfind')
    obtain ⟨s, hread, hsame, hkeep⟩ := hsettles p.state
    refine ⟨⟨s, name i :: p.seen⟩, ?_, fun j => ?_⟩
    · simp only [readMember, hfind, if_neg hseen, hread]
      rfl
    -- the member belongs to one part only, as no other part has its name
    · by_cases hij : name i = name j
      · obtain rfl := hnamed.injective i j hij
        exact .inl ⟨hrest, hsame⟩
      · exact (h j).other hij (hkeep j)

/-- All members: in the end every part is as it should be. -/
theorem foldlM_readMember_due (hnamed : r.Named name) {p : Progress σ}
    (hskip : ∀ m ∈ members, m.2.skipFault? = none) (h : ∀ i, r.Due name Same members p i) :
    ∃ p', (members.map fun m => (some m.1, m.2)).foldlM r.readMember p = .ok p' ∧
      ∀ i, Same i p'.state := by
  -- every part stays due: it is settled already, or its member is among those to come
  induction members generalizing p with
  | nil =>
    refine ⟨p, rfl, fun i => ?_⟩
    rcases h i with ⟨-, hsame⟩ | ⟨v, f, hsome, -⟩
    · exact hsame
    · cases hsome
  | cons m members ih =>
    obtain ⟨hm, hrest⟩ := List.forall_mem_cons.mp hskip
    obtain ⟨q, hq, hdue⟩ := readMember_due hnamed hm h
    obtain ⟨p', hp', hsame⟩ := ih hrest hdue
    refine ⟨p', ?_, hsame⟩
    rw [List.map_cons, List.foldlM_cons, hq]
    exact hp'

/-- An object is read when every part is as it should be or one member settles it, in whatever order
the members come and whatever else stands between them. All parts are as they should be then. -/
theorem exists_read (hnamed : r.Named name) {cs : List Char}
    (hspelled : (Value.ofMembers members).Spelled cs)
    (h : ∀ i, r.Due name Same members ⟨r.start, []⟩ i) :
    ∃ s, r.read (.ofMembers members) = .ok s ∧ ∀ i, Same i s := by
  have hskip : ∀ m ∈ members, m.2.skipFault? = none := by
    intro m hm
    obtain ⟨ds, hds⟩ := hspelled.ofMembers m hm
    exact skipFault?_of_spelled hds
  obtain ⟨p, hp, hsame⟩ := foldlM_readMember_due hnamed hskip h
  have hmissing : r.fields.find? (fun f => !f.optional && f.name ∉ p.seen) = none := by
    rw [List.find?_eq_none]
    intro f hf
    simp [hnamed.optional f hf]
  refine ⟨p.state, ?_, hsame⟩
  rw [Value.ofMembers, read, readMembers]
  refine (bind_eq_of_ok hp _).trans ?_
  refine (bind_eq_of_ok rfl _).trans ?_
  rw [hmissing]
  rfl

end

end Record

/-! ## Texts -/

/-- A text that spells a value is read as the value is. -/
theorem document_of_spells {α : Type} (read : Value → Reads α) {text : String} {v : Value}
    (h : Spells text v) : document read text = read v := by
  simp only [document, ofText_of_spells h]
  cases read v <;> rfl

end Reader

end CharLcd
