/-!
# Lists

- `lookup_filter_ne`: in a list of pairs as a finite map, removing the entries of
  one key changes no other.
- `lookup_replace_self`, `lookup_replace_of_ne`: putting an entry in front of the
  others, without those of its key.
- `lookup_append_of_none`: entries in front that do not have the key.
- `lookup_eq_some_of_unique`: a key that stands before one value only.
- `mapM_eq_pure_map`: a step for every item when no step fails; `mapM_eq_ok_iff`,
  `mapM_eq_error`: when some may fail.
-/

namespace CharLcd

/-! ## Entries with keys -/

section

variable {κ ν : Type} [BEq κ] [LawfulBEq κ] [DecidableEq κ] {key other : κ}

/-- Removing the entries of one key does not change what stands at another. -/
theorem lookup_filter_ne (entries : List (κ × ν)) (h : other ≠ key) :
    (entries.filter (·.1 ≠ key)).lookup other = entries.lookup other := by
  induction entries with
  | nil => rfl
  | cons entry rest ih =>
    obtain ⟨here, e⟩ := entry
    by_cases hp : here = key
    · rw [List.filter_cons_of_neg (by simpa using hp), ih, List.lookup_cons,
        beq_eq_false_iff_ne.mpr (hp ▸ h)]
    · rw [List.filter_cons_of_pos (by simpa using hp), List.lookup_cons, List.lookup_cons, ih]

theorem lookup_replace_self (entries : List (κ × ν)) (value : ν) :
    ((key, value) :: entries.filter (·.1 ≠ key)).lookup key = some value :=
  List.lookup_cons_self

theorem lookup_replace_of_ne (entries : List (κ × ν)) (value : ν) (h : other ≠ key) :
    ((key, value) :: entries.filter (·.1 ≠ key)).lookup other = entries.lookup other := by
  rw [List.lookup_cons, beq_eq_false_iff_ne.mpr h, lookup_filter_ne entries h]

end

/-- Entries in front that do not have the key change nothing. -/
theorem lookup_append_of_none {κ ν : Type} [BEq κ] {key : κ} {front entries : List (κ × ν)}
    (h : front.lookup key = none) : (front ++ entries).lookup key = entries.lookup key := by
  rw [List.lookup_append, h, Option.none_or]

/-- A key that stands before one value only has that value. -/
theorem lookup_eq_some_of_unique {κ ν : Type} [BEq κ] [LawfulBEq κ] {key : κ} {value : ν}
    {entries : List (κ × ν)} (hmem : (key, value) ∈ entries)
    (hunique : ∀ v, (key, v) ∈ entries → v = value) : entries.lookup key = some value := by
  induction entries with
  | nil => exact absurd hmem List.not_mem_nil
  | cons entry rest ih =>
    obtain ⟨here, v⟩ := entry
    rw [List.lookup_cons]
    split
    next hkey =>
      obtain rfl := eq_of_beq hkey
      rw [hunique v List.mem_cons_self]
    next hkey =>
      refine ih ?_ fun w hw => hunique w (List.mem_cons_of_mem _ hw)
      rcases List.mem_cons.mp hmem with heq | hmem
      · obtain ⟨rfl, rfl⟩ := Prod.mk.inj heq
        rw [beq_self_eq_true] at hkey
        cases hkey
      · exact hmem

/-! ## A step for every item -/

/-- Where every step succeeds, so do all of them. -/
theorem mapM_eq_pure_map {m : Type → Type} [Monad m] [LawfulMonad m] {α β : Type} {f : α → m β}
    {g : α → β} {items : List α} (h : ∀ a ∈ items, f a = pure (g a)) :
    items.mapM f = pure (items.map g) := by
  induction items with
  | nil => rfl
  | cons a items ih =>
    rw [List.mapM_cons, h a List.mem_cons_self, ih fun b hb => h b (List.mem_cons_of_mem a hb)]
    simp

section

variable {ε α β : Type} {f : α → Except ε β}

/-- Where steps succeed for some items only, all of them succeed when there are no others. -/
theorem mapM_eq_ok_iff {p : α → Prop} {g : α → β} {items : List α} {results : List β}
    (h : ∀ a ∈ items, ∀ b, f a = .ok b ↔ p a ∧ b = g a) :
    items.mapM f = .ok results ↔ (∀ a ∈ items, p a) ∧ results = items.map g := by
  constructor
  · intro hall
    induction items generalizing results with
    | nil =>
      obtain rfl := Except.ok.inj hall
      exact ⟨nofun, rfl⟩
    | cons a items ih =>
      rw [List.mapM_cons] at hall
      cases ha : f a with
      | error e =>
        rw [ha] at hall
        cases hall
      | ok b =>
        rw [ha] at hall
        cases hrest : items.mapM f with
        | error e =>
          rw [hrest] at hall
          cases hall
        | ok rest =>
          rw [hrest] at hall
          obtain rfl := Except.ok.inj hall
          obtain ⟨hp, rfl⟩ := (h a List.mem_cons_self b).mp ha
          obtain ⟨hps, rfl⟩ := ih (fun c hc => h c (List.mem_cons_of_mem a hc)) hrest
          exact ⟨List.forall_mem_cons.mpr ⟨hp, hps⟩, rfl⟩
  · rintro ⟨hp, rfl⟩
    exact mapM_eq_pure_map fun a ha => (h a ha (g a)).mpr ⟨hp a ha, rfl⟩

/-- The first step that fails ends them all. -/
theorem mapM_eq_error {before after : List α} {a : α} {e : ε}
    (hbefore : ∀ b ∈ before, ∃ result, f b = .ok result) (ha : f a = .error e) :
    (before ++ a :: after).mapM f = .error e := by
  induction before with
  | nil =>
    rw [List.nil_append, List.mapM_cons, ha]
    rfl
  | cons b before ih =>
    obtain ⟨result, hb⟩ := hbefore b List.mem_cons_self
    rw [List.cons_append, List.mapM_cons, hb, ih fun c hc => hbefore c (List.mem_cons_of_mem b hc)]
    rfl

end

end CharLcd
