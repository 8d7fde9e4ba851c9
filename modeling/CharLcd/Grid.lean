/-!
# Rectangular grids

A grid of fixed height and width: the pixels of a character, the cells of a
display and the slots of an LCD are all grids.

- `Grid.ofFn` / `Grid.get`: the two views; a grid is determined by its entries
  (`Grid.ext_get`).
- `Grid.get?` / `Grid.set?`: access by arbitrary numbers, refusing positions
  outside the grid.
- `Grid.positions`: all positions in scan order, line by line.
-/

namespace CharLcd

universe u v

/-- A `height` by `width` table with entries in `α`. -/
structure Grid (height width : Nat) (α : Type u) where
  /-- The lines of the grid, top line first. -/
  lines : Vector (Vector α width) height
  deriving DecidableEq, Repr

namespace Grid

variable {height width : Nat} {α : Type u} {β : Type v}

/-- The grid whose entry at each position is given by a function. -/
def ofFn (f : Fin height → Fin width → α) : Grid height width α :=
  ⟨Vector.ofFn fun line => Vector.ofFn (f line)⟩

/-- The grid with the same entry everywhere. -/
def replicate (a : α) : Grid height width α :=
  ofFn fun _ _ => a

/-- The entry at a position. -/
def get (g : Grid height width α) (line : Fin height) (column : Fin width) : α :=
  (g.lines[line])[column]

/-- Grids are equal as soon as their entries are. -/
theorem ext_get {g h : Grid height width α}
    (same : ∀ line column, g.get line column = h.get line column) : g = h := by
  cases g with | mk g => cases h with | mk h =>
  congr 1
  apply Vector.ext
  intro line hline
  apply Vector.ext
  intro column hcolumn
  exact same ⟨line, hline⟩ ⟨column, hcolumn⟩

@[simp] theorem get_ofFn (f : Fin height → Fin width → α) (line : Fin height)
    (column : Fin width) : (ofFn f).get line column = f line column := by
  simp [get, ofFn]

@[simp] theorem ofFn_get (g : Grid height width α) : ofFn g.get = g :=
  ext_get fun _ _ => get_ofFn _ _ _

@[simp] theorem get_replicate (a : α) (line : Fin height) (column : Fin width) :
    (replicate a : Grid height width α).get line column = a :=
  get_ofFn _ _ _

/-- Apply a function to every entry. -/
def map (f : α → β) (g : Grid height width α) : Grid height width β :=
  ofFn fun line column => f (g.get line column)

@[simp] theorem get_map (f : α → β) (g : Grid height width α) (line : Fin height)
    (column : Fin width) : (g.map f).get line column = f (g.get line column) :=
  get_ofFn _ _ _

/-! ## Changing one entry -/

/-- Replace the entry at one position. -/
def set (g : Grid height width α) (line : Fin height) (column : Fin width) (a : α) :
    Grid height width α :=
  ⟨g.lines.set line (g.lines[line].set column a)⟩

theorem get_set (g : Grid height width α) (line line' : Fin height)
    (column column' : Fin width) (a : α) :
    (g.set line column a).get line' column' =
      if line' = line ∧ column' = column then a else g.get line' column' := by
  by_cases hl : line = line'
  · subst hl
    by_cases hc : column = column'
    · subst hc; simp [get, set]
    · have : (column : Nat) ≠ column' := fun h => hc (Fin.ext h)
      simp [get, set, this, Ne.symm hc]
  · have : (line : Nat) ≠ line' := fun h => hl (Fin.ext h)
    simp [get, set, this, Ne.symm hl]

@[simp] theorem get_set_self (g : Grid height width α) (line : Fin height)
    (column : Fin width) (a : α) : (g.set line column a).get line column = a := by
  simp [get_set]

/-- Putting back the entry that stands at a position changes nothing. -/
@[simp] theorem set_get_self (g : Grid height width α) (line : Fin height) (column : Fin width) :
    g.set line column (g.get line column) = g := by
  apply ext_get
  intro line' column'
  rw [get_set]
  split
  next h => rw [h.1, h.2]
  next => rfl

/-- What stood at a position before is forgotten. -/
@[simp] theorem set_set_self (g : Grid height width α) (line : Fin height) (column : Fin width)
    (a b : α) : (g.set line column a).set line column b = g.set line column b := by
  apply ext_get
  intro line' column'
  simp only [get_set]
  split <;> rfl

/-! ## Access by arbitrary numbers -/

/-- The entry at a position, if the position lies in the grid. -/
def get? (g : Grid height width α) (line column : Nat) : Option α :=
  if h : line < height ∧ column < width then some (g.get ⟨line, h.1⟩ ⟨column, h.2⟩) else none

/-- Replace an entry; `none` when the position lies outside the grid. -/
def set? (g : Grid height width α) (line column : Nat) (a : α) : Option (Grid height width α) :=
  if h : line < height ∧ column < width then some (g.set ⟨line, h.1⟩ ⟨column, h.2⟩ a) else none

@[simp] theorem get?_fin (g : Grid height width α) (line : Fin height) (column : Fin width) :
    g.get? line column = some (g.get line column) := by
  simp [get?]

@[simp] theorem set?_fin (g : Grid height width α) (line : Fin height) (column : Fin width)
    (a : α) : g.set? line column a = some (g.set line column a) := by
  simp [set?]

theorem get?_eq_none_iff {g : Grid height width α} {line column : Nat} :
    g.get? line column = none ↔ ¬ (line < height ∧ column < width) := by
  unfold get?
  split <;> simp_all

theorem set?_eq_none_iff {g : Grid height width α} {line column : Nat} {a : α} :
    g.set? line column a = none ↔ ¬ (line < height ∧ column < width) := by
  unfold set?
  split <;> simp_all

/-- What has been put at a position stands there. -/
theorem get?_of_set?_eq_some {g g' : Grid height width α} {line column : Nat} {a : α}
    (h : g.set? line column a = some g') : g'.get? line column = some a := by
  unfold set? at h
  split at h
  next hinside =>
    obtain rfl := Option.some.inj h
    rw [get?, dif_pos hinside, get_set_self]
  next => cases h

/-- Putting an entry at a position leaves all others alone. -/
theorem get_of_set?_eq_some {g g' : Grid height width α} {line column : Nat} {a : α}
    (h : g.set? line column a = some g') (line' : Fin height) (column' : Fin width) :
    g'.get line' column' =
      if line'.val = line ∧ column'.val = column then a else g.get line' column' := by
  unfold set? at h
  split at h
  next =>
    obtain rfl := Option.some.inj h
    rw [get_set]
    simp only [Fin.ext_iff]
  next => cases h

/-- Putting another entry at a position gives another grid. -/
theorem ne_of_set?_eq_some {g g' : Grid height width α} {line column : Nat} {a : α}
    (h : g.set? line column a = some g') (hne : g.get? line column ≠ some a) : g' ≠ g := by
  rintro rfl
  exact hne (get?_of_set?_eq_some h)

theorem get?_eq_some_iff {g : Grid height width α} {line column : Nat} {a : α} :
    g.get? line column = some a ↔
      ∃ (hl : line < height) (hc : column < width), g.get ⟨line, hl⟩ ⟨column, hc⟩ = a := by
  unfold get?
  split
  next h => simp [h]
  next h =>
    simp only [reduceCtorEq, false_iff]
    rintro ⟨hl, hc, -⟩
    exact h ⟨hl, hc⟩

/-! ## Scanning -/

/-- All positions in scan order: the top line from left to right, then the next line. -/
def positions (height width : Nat) : List (Fin height × Fin width) :=
  (List.finRange height).flatMap fun line => (List.finRange width).map fun column => (line, column)

@[simp] theorem mem_positions (p : Fin height × Fin width) : p ∈ positions height width := by
  obtain ⟨line, column⟩ := p
  simp [positions]

/-- The entries in scan order. -/
def toList (g : Grid height width α) : List α :=
  (positions height width).map fun p => g.get p.1 p.2

@[simp] theorem mem_toList {g : Grid height width α} {a : α} :
    a ∈ g.toList ↔ ∃ line column, g.get line column = a := by
  simp [toList]

end Grid

end CharLcd
