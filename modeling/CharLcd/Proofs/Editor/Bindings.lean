import CharLcd.Editor.Control
import CharLcd.Lists
import CharLcd.Proofs.Digits

/-!
# Which key bindings overlap

A key press is accepted by its code and by its modifiers. The codes of two bindings are the same or
not, and as to modifiers there are two classes: any two bindings with something before the name
of the key can be pressed together, since both modifiers can be held down at once, and a binding with
nothing before the name excludes both modifiers. So two bindings overlap if and only if they look
like it.

- `NamesKey`: the keys that a name stands for; `keyOfName?_eq_some_iff` says that these are the keys
  that are found, and that the order in which they are looked for does not matter.
- `Binding.nameOf`, `Binding.isPrefixed`: the two parts of a binding; `Binding.split_cases`.
- `Binding.exists_accepts_iff`: which bindings overlap.
- `find?_eq_of_perm`: without overlaps the order of the requests does not matter.
- `bindings_overlap_iff`: the statement for texts, and for the default bindings.
-/

namespace CharLcd

open Terminal

/-! ## Names of keys -/

/-- The keys that a name stands for. -/
inductive NamesKey : List Char → KeyCode → Prop where
  /-- The keys with names of their own. -/
  | named {name : String} {code : KeyCode} (h : (name, code) ∈ namedKeys) :
    NamesKey name.toList code
  /-- The function keys. -/
  | function {digits : List Char} {n : Nat} (h : byteOfDecimal? digits = some n) :
    NamesKey ('F' :: digits) (.function n)
  /-- A character on its own. -/
  | character (c : Char) : NamesKey [c] (.char c)

theorem lookup_of_mem_namedKeys :
    ∀ e ∈ namedKeys, namedKeys.lookup (String.ofList e.1.toList) = some e.2 := by
  decide

/-- No key with a name of its own has a name of one character, or one that begins like that of a
function key. -/
theorem long_of_mem_namedKeys :
    ∀ e ∈ namedKeys, 1 < e.1.toList.length ∧ e.1.toList.head? ≠ some 'F' := by
  decide

theorem lookup_namedKeys_eq_none {name : List Char}
    (h : name.length ≤ 1 ∨ name.head? = some 'F') :
    namedKeys.lookup (String.ofList name) = none := by
  refine List.lookup_eq_none_iff.mpr fun e he => bne_iff_ne.mpr fun heq => ?_
  obtain ⟨hlength, hhead⟩ := long_of_mem_namedKeys e he
  rw [← heq, String.toList_ofList] at hlength hhead
  exact h.elim (Nat.not_le_of_lt hlength) hhead

/-- The key that is found for a name is one that the name stands for. There is at most one. -/
theorem keyOfName?_eq_some_iff {name : List Char} {code : KeyCode} :
    keyOfName? name = some code ↔ NamesKey name code := by
  constructor
  · intro h
    rw [keyOfName?, Option.or_eq_some_iff, Option.or_eq_some_iff] at h
    rcases h with (hnamed | ⟨-, hfunction⟩) | ⟨-, hcharacter⟩
    · obtain ⟨before, after, hkeys, -⟩ := List.lookup_eq_some_iff.mp hnamed
      have hmem : (String.ofList name, code) ∈ namedKeys := hkeys ▸ List.mem_append_cons_self
      rw [← String.toList_ofList (l := name)]
      exact .named hmem
    · unfold functionKey? at hfunction
      split at hfunction
      next digits =>
        obtain ⟨n, hn, rfl⟩ := Option.map_eq_some_iff.mp hfunction
        exact .function hn
      next => cases hfunction
    · unfold characterKey? at hcharacter
      split at hcharacter
      next c =>
        obtain rfl := Option.some.inj hcharacter
        exact .character c
      next => cases hcharacter
  -- the three kinds of names exclude each other, so what is tried before does not find anything
  · rintro (hmem | hn | c)
    · rw [keyOfName?, lookup_of_mem_namedKeys _ hmem]
      rfl
    · rw [keyOfName?, lookup_namedKeys_eq_none (.inr rfl), functionKey?, hn]
      rfl
    · have hfunction : functionKey? [c] = none := by
        unfold functionKey?
        split
        next heq =>
          obtain ⟨-, rfl⟩ := List.cons.inj heq
          rfl
        next => rfl
      have hshort : [c].length ≤ 1 := Nat.le_refl 1
      rw [keyOfName?, lookup_namedKeys_eq_none (.inl hshort), hfunction]
      rfl

/-- A number written in decimal is read as that number. -/
theorem byteOfDecimal?_toString {n : Nat} (h : n < 256) :
    byteOfDecimal? (toString n).toList = some n := by
  have hdigits : (toString n).toList = Nat.toDigits 10 n := by
    simp
  have hplus : (Nat.toDigits 10 n).head? ≠ some '+' := by
    intro hhead
    exact absurd (isDigit_of_mem_toDigits (List.mem_of_head? hhead)) (by decide)
  have hvalue : decimalValue (Nat.toDigits 10 n) = n := by
    have hread : Nat.ofDigitChars 10 (Nat.toDigits 10 n) 0 = n := by
      simp
    rw [Nat.ofDigitChars_eq_foldl] at hread
    exact hread
  have hall : (Nat.toDigits 10 n).all Char.isDigit = true :=
    List.all_eq_true.mpr fun c hc => isDigit_of_mem_toDigits hc
  simp only [hdigits, byteOfDecimal?, if_neg hplus]
  rw [hvalue, if_pos ⟨Nat.toDigits_ne_nil, hall, h⟩]

/-! ## Parts of a binding -/

namespace Binding

/-- What stands before the name of the key if a modifier must be held down. -/
def marks : List String := ["Alt-", "Ctrl-"]

/-- The name of the key in a binding. -/
def nameOf (s : String) : List Char := (split s.toList).2

/-- Something stands before the name of the key. -/
def isPrefixed (s : String) : Bool := (split s.toList).1.isSome

/-- The name is the rest after a mark, or the whole text if it begins with none. -/
theorem split_cases (s : String) :
    (isPrefixed s = true ∧ ∃ mark ∈ marks, s.toList = mark.toList ++ nameOf s) ∨
      isPrefixed s = false ∧ nameOf s = s.toList ∧ ∀ mark ∈ marks, ¬ mark.toList <+: s.toList := by
  unfold isPrefixed nameOf
  unfold split
  split
  next name h => exact .inl ⟨rfl, "Alt-", by decide, h⟩
  next name h => exact .inl ⟨rfl, "Ctrl-", by decide, h⟩
  next halt hctrl =>
    refine .inr ⟨rfl, rfl, fun mark hmark => ?_⟩
    rintro ⟨name, hname⟩
    simp only [marks, List.mem_cons, List.not_mem_nil, or_false] at hmark
    rcases hmark with rfl | rfl
    · exact halt name hname.symm
    · exact hctrl name hname.symm

/-- The text names a key, which is pressed with the modifiers that the text asks for. -/
theorem bindingAccepts_iff_nameOf {s : String} {k : Key} :
    bindingAccepts s k = true ↔
      ∃ code, keyOfName? (nameOf s) = some code ∧
        (⟨(split s.toList).1, code⟩ : Binding).accepts k = true := by
  rw [bindingAccepts_iff]
  have hbinding : ofString? s = (keyOfName? (nameOf s)).map (⟨(split s.toList).1, ·⟩) := rfl
  rw [hbinding]
  constructor
  · rintro ⟨b, hb, haccepts⟩
    obtain ⟨code, hcode, rfl⟩ := Option.map_eq_some_iff.mp hb
    exact ⟨code, hcode, haccepts⟩
  · rintro ⟨code, hcode, haccepts⟩
    exact ⟨_, Option.map_eq_some_iff.mpr ⟨code, hcode, rfl⟩, haccepts⟩

/-! ## Overlaps -/

/-- Some modifiers are right for both, if both ask for one to be held down or none does. -/
theorem exists_allows_iff (held held' : Option Held) :
    (∃ m, allows held m = true ∧ allows held' m = true) ↔ held.isSome = held'.isSome := by
  -- a key held with both modifiers has the one that is asked for, whichever it is
  have hboth : ∀ h, allows (some h) { alt := true, ctrl := true } = true := by
    rintro (_ | _) <;> rfl
  have hapart : ∀ h m, allows none m = true → allows (some h) m = false := by
    intro h m hm
    rw [allows, Bool.and_eq_true, Bool.not_eq_true', Bool.not_eq_true'] at hm
    cases h with
    | alt => exact hm.1
    | ctrl => exact hm.2
  cases held with
  | none =>
    cases held' with
    | none => exact ⟨fun _ => rfl, fun _ => ⟨{}, rfl, rfl⟩⟩
    | some h' =>
      refine ⟨?_, nofun⟩
      rintro ⟨m, hm, hm'⟩
      exact absurd (hapart h' m hm) (by rw [hm']; nofun)
  | some h =>
    cases held' with
    | none =>
      refine ⟨?_, nofun⟩
      rintro ⟨m, hm, hm'⟩
      exact absurd (hapart h m hm') (by rw [hm]; nofun)
    | some h' => exact ⟨fun _ => rfl, fun _ => ⟨_, hboth h, hboth h'⟩⟩

/-- Some key press is accepted by both bindings. -/
theorem exists_accepts_iff (b c : Binding) :
    (∃ k, b.accepts k = true ∧ c.accepts k = true) ↔
      b.code = c.code ∧ b.held.isSome = c.held.isSome := by
  simp only [accepts, Bool.and_eq_true, decide_eq_true_eq]
  rw [← exists_allows_iff]
  constructor
  · rintro ⟨k, ⟨hm, hcode⟩, hm', hcode'⟩
    exact ⟨hcode.symm.trans hcode', k.modifiers, hm, hm'⟩
  · rintro ⟨hcode, m, hm, hm'⟩
    exact ⟨⟨b.code, m⟩, ⟨hm, rfl⟩, hm', hcode⟩

/-- Some key press is accepted by both texts. -/
theorem exists_bindingAccepts_iff (s t : String) :
    (∃ k, bindingAccepts s k = true ∧ bindingAccepts t k = true) ↔
      (∃ code, keyOfName? (nameOf s) = some code ∧ keyOfName? (nameOf t) = some code) ∧
        isPrefixed s = isPrefixed t := by
  simp only [bindingAccepts_iff_nameOf]
  constructor
  · rintro ⟨k, ⟨code, hcode, hk⟩, code', hcode', hk'⟩
    obtain ⟨rfl, hheld⟩ := (exists_accepts_iff _ _).mp ⟨k, hk, hk'⟩
    exact ⟨⟨code, hcode, hcode'⟩, hheld⟩
  · rintro ⟨⟨code, hcode, hcode'⟩, hheld⟩
    obtain ⟨k, hk, hk'⟩ := (exists_accepts_iff ⟨(split s.toList).1, code⟩
      ⟨(split t.toList).1, code⟩).mpr ⟨rfl, hheld⟩
    exact ⟨k, ⟨code, hcode, hk⟩, code, hcode', hk'⟩

end Binding

/-! ## Requests -/

section

variable {α : Type} {p : α → Bool} {l : List α}

/-- At most one item passes a test if no two do. -/
theorem countP_le_one (h : l.Pairwise fun a b => ¬ (p a = true ∧ p b = true)) :
    l.countP p ≤ 1 := by
  induction h with
  | nil => exact Nat.zero_le 1
  | @cons a rest hrest _ ih =>
    by_cases ha : p a = true
    · have hzero : rest.countP p = 0 :=
        List.countP_eq_zero.mpr fun b hb hpb => hrest b hb ⟨ha, hpb⟩
      exact Nat.le_of_eq (by rw [List.countP_cons_of_pos ha, hzero])
    · rw [List.countP_cons_of_neg ha]
      exact ih

/-- If at most one item passes a test, it is found in any order. -/
theorem find?_eq_of_perm {order : List α} (h : l.countP p ≤ 1) (hperm : order.Perm l) :
    order.find? p = l.find? p := by
  -- the first item found is the first of those that pass, and there is at most one of these
  have hfilter : (order.filter p).Perm (l.filter p) := hperm.filter p
  rw [List.countP_eq_length_filter] at h
  rw [← List.head?_filter, ← List.head?_filter]
  cases hl : l.filter p with
  | nil =>
    rw [hl] at hfilter
    rw [hfilter.eq_nil]
  | cons a rest =>
    rw [hl] at hfilter h
    obtain rfl : rest = [] := List.eq_nil_of_length_eq_zero (Nat.le_zero.mp (Nat.le_of_succ_le_succ h))
    rw [List.perm_singleton.mp hfilter]

end

namespace Request

/-- The binding that a key has to agree with. -/
def binding? (keys : KeyBindings) : Request → Option Binding
  | function f => Binding.ofString? (keys.binding f)
  | pixel arrow => some ⟨none, arrow⟩

theorem accepts_iff {keys : KeyBindings} {k : Key} {r : Request} :
    accepts keys k r = true ↔ ∃ b, binding? keys r = some b ∧ b.accepts k = true := by
  cases r with
  | function f => exact bindingAccepts_iff
  | pixel arrow =>
    constructor
    · exact fun h => ⟨_, rfl, h⟩
    · rintro ⟨b, hb, h⟩
      obtain rfl := Option.some.inj hb
      exact h

/-- The default bindings, and those of the arrow keys. -/
theorem pairwise_binding?_default :
    all.Pairwise fun r r' => ∀ b ∈ binding? {} r, ∀ c ∈ binding? {} r',
      ¬ (b.code = c.code ∧ b.held.isSome = c.held.isSome) := by
  decide +kernel

/-- No key asks for two requests. -/
theorem countP_accepts_default_le (k : Key) : all.countP (accepts {} k) ≤ 1 := by
  refine countP_le_one (pairwise_binding?_default.imp fun {r r'} hapart => ?_)
  rintro ⟨hr, hr'⟩
  obtain ⟨b, hb, hk⟩ := accepts_iff.mp hr
  obtain ⟨c, hc, hk'⟩ := accepts_iff.mp hr'
  exact hapart b hb c hc ((Binding.exists_accepts_iff b c).mp ⟨k, hk, hk'⟩)

end Request

/-- **Key bindings overlap if they look like it.** Some key press is accepted by two texts if and
only if their names stand for the same key and both or none have a mark before the name. A character
stands for itself, a function key is named by its number, and no name stands for two keys. Among the
default bindings and the arrow keys no two overlap, so the order in which they are tried does not
matter. -/
theorem bindings_overlap_iff :
    (∀ s t : String, (∃ k, bindingAccepts s k = true ∧ bindingAccepts t k = true) ↔
      (∃ code, NamesKey (Binding.nameOf s) code ∧ NamesKey (Binding.nameOf t) code) ∧
        Binding.isPrefixed s = Binding.isPrefixed t) ∧
    (∀ s, (Binding.isPrefixed s = true ∧
        ∃ mark ∈ ["Alt-", "Ctrl-"], s.toList = mark.toList ++ Binding.nameOf s) ∨
      Binding.isPrefixed s = false ∧ Binding.nameOf s = s.toList ∧
        ∀ mark ∈ ["Alt-", "Ctrl-"], ¬ mark.toList <+: s.toList) ∧
    (∀ name code, keyOfName? name = some code ↔ NamesKey name code) ∧
    (∀ c, keyOfName? [c] = some (.char c)) ∧
    (∀ n < 256, keyOfName? ('F' :: (toString n).toList) = some (.function n)) ∧
    (∀ name code code', NamesKey name code → NamesKey name code' → code = code') ∧
    ∀ k, Request.all.countP (Request.accepts {} k) ≤ 1 ∧
      ∀ order : List Request, order.Perm Request.all →
        order.find? (Request.accepts {} k) = Request.ofKey? {} k := by
  refine ⟨fun s t => ?_, Binding.split_cases, fun _ _ => keyOfName?_eq_some_iff, fun c => ?_,
    fun n hn => ?_, fun name code code' h h' => ?_, fun k => ⟨?_, fun order hperm => ?_⟩⟩
  · rw [Binding.exists_bindingAccepts_iff]
    simp only [keyOfName?_eq_some_iff]
  · exact keyOfName?_eq_some_iff.mpr (.character c)
  · exact keyOfName?_eq_some_iff.mpr (.function (byteOfDecimal?_toString hn))
  · rw [← keyOfName?_eq_some_iff] at h h'
    exact Option.some.inj (h.symm.trans h')
  · exact Request.countP_accepts_default_le k
  · exact find?_eq_of_perm (Request.countP_accepts_default_le k) hperm

/-- The key that stands for a minus with either modifier or none, the last function key, and
`Alt-Left`, which is not taken for a plain arrow key even if that is tried first. -/
theorem bindings_overlap_iff_minus :
    (∃ k, bindingAccepts "Alt--" k = true ∧ bindingAccepts "Ctrl--" k = true) ∧
    (¬ ∃ k, bindingAccepts "Alt--" k = true ∧ bindingAccepts "-" k = true) ∧
    keyOfName? "F255".toList = some (.function 255) ∧
    Request.all.reverse.find? (Request.accepts {} ⟨.left, { alt := true }⟩) =
      some (.function .cellLeft) := by
  obtain ⟨hoverlap, -, hnames, -, hfunction, -, hdefault⟩ := bindings_overlap_iff
  refine ⟨(hoverlap "Alt--" "Ctrl--").mpr ⟨⟨.char '-', ?_, ?_⟩, rfl⟩, fun h => ?_,
    hfunction 255 (by decide), ?_⟩
  · exact (hnames _ _).mp (by decide)
  · exact (hnames _ _).mp (by decide)
  · exact absurd ((hoverlap "Alt--" "-").mp h).2 (by decide)
  · rw [(hdefault ⟨.left, { alt := true }⟩).2 Request.all.reverse Request.all.reverse_perm]
    decide

end CharLcd
