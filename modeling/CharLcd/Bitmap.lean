import CharLcd.Grid

/-!
# Character bitmaps

A custom character of the LCD is a bitmap of eight rows of five pixels.

- `Bitmap`: the bitmap, a grid of booleans (`true` is a lit pixel).
- `Bitmap.blank`, `Bitmap.isBlank`, `Bitmap.activeCount`.
- `Bitmap.toggle?`: flip the pixel at arbitrary indices; `none` when it does not
  exist.
- `Bitmap.rows`, `Bitmap.ofRows`: the bitmap as a list of rows, and back
  (`ofRows_rows`).
- `Row`: one row of pixels, as the compiled sketch stores it.
-/

namespace CharLcd

/-- Pixel rows in one character cell. -/
abbrev glyphRows : Nat := 8

theorem glyphRows_pos : 0 < glyphRows := by decide

/-- Pixel columns in one character cell. -/
abbrev glyphColumns : Nat := 5

theorem glyphColumns_pos : 0 < glyphColumns := by decide

/-- One row of five pixels. -/
abbrev Row := Vector Bool glyphColumns

/-- An eight by five character bitmap. -/
abbrev Bitmap := Grid glyphRows glyphColumns Bool

namespace Bitmap

/-- The bitmap with every pixel off. -/
def blank : Bitmap := Grid.replicate false

@[simp] theorem get_blank (row : Fin glyphRows) (column : Fin glyphColumns) :
    blank.get row column = false :=
  Grid.get_replicate _ _ _

/-- Whether every pixel is off. -/
def isBlank (b : Bitmap) : Bool :=
  b.toList.all (! ·)

/-- Number of lit pixels. -/
def activeCount (b : Bitmap) : Nat :=
  b.toList.count true

/-- A bitmap is blank exactly when it is the blank bitmap. -/
theorem isBlank_iff {b : Bitmap} : b.isBlank = true ↔ b = blank := by
  constructor
  · intro h
    apply Grid.ext_get
    intro row column
    have := List.all_eq_true.mp h _ (Grid.mem_toList.mpr ⟨row, column, rfl⟩)
    simpa using this
  · rintro rfl
    simp [isBlank]

/-- Flip a pixel: the new bitmap and the pixel's new state. -/
def toggle? (b : Bitmap) (row column : Nat) : Option (Bitmap × Bool) := do
  let on ← b.get? row column
  let b' ← b.set? row column (!on)
  return (b', !on)

/-- A pixel that exists is flipped. -/
theorem toggle?_fin (b : Bitmap) (row : Fin glyphRows) (column : Fin glyphColumns) :
    b.toggle? row column = some (b.set row column !(b.get row column), !(b.get row column)) := by
  simp [toggle?]

/-- Flipping a pixel gives another bitmap. -/
theorem ne_of_toggle?_eq_some {b b' : Bitmap} {row column : Nat} {on : Bool}
    (h : b.toggle? row column = some (b', on)) : b' ≠ b := by
  obtain ⟨old, hold, h⟩ := Option.bind_eq_some_iff.mp h
  obtain ⟨c, hc, h⟩ := Option.bind_eq_some_iff.mp h
  cases h
  refine Grid.ne_of_set?_eq_some hc ?_
  rw [hold]
  cases old <;> decide

/-! ## Rows -/

/-- The rows of a bitmap, top row first. -/
def rows (b : Bitmap) : List (List Bool) := b.lines.toList.map Vector.toList

/-- The bitmap with the given rows; pixels that are not given are dark. -/
def ofRows (rows : List (List Bool)) : Bitmap :=
  Grid.ofFn fun row column => ((rows[row.val]?).bind (·[column.val]?)).getD false

@[simp] theorem length_rows (b : Bitmap) : b.rows.length = glyphRows := by
  simp [rows]

/-- Every row has five pixels. -/
theorem length_of_mem_rows {b : Bitmap} {row : List Bool} (h : row ∈ b.rows) :
    row.length = glyphColumns := by
  obtain ⟨v, -, rfl⟩ := List.mem_map.mp h
  exact v.length_toList

/-- A bitmap is given by its rows. -/
@[simp] theorem ofRows_rows (b : Bitmap) : ofRows b.rows = b := by
  apply Grid.ext_get
  intro row column
  rw [ofRows, Grid.get_ofFn]
  simp [rows, Grid.get]

end Bitmap

end CharLcd
