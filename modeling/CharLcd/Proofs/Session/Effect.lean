import CharLcd.Proofs.Session

/-!
# What operations do to the parts of a session

An operation addresses a pixel, a cell, the whole display or the options. It works on each pixel
that it addresses by itself and leaves the others alone, so what it does to a display is known as
soon as it is known for one pixel.

- `Display.pixel`: the pixels of a display, which determine it (`Display.ext_pixel`).
- `Target`, `Session.Operation.target`: what an operation addresses.
- `Session.Operation.ink`: what an operation makes of a pixel that it addresses; `pixel_perform`
  says that it does nothing else to the display.
- `Session.options_perform`, `Session.clipboard_perform`: what it does to the rest.
-/

namespace CharLcd

/-! ## Pixels of a display -/

namespace Display

/-- A pixel of a display. -/
def pixel (d : Display) (line : Fin lcdLines) (column : Fin lcdColumns) (row : Fin glyphRows)
    (col : Fin glyphColumns) : Bool :=
  (d.get line column).get row col

/-- A pixel of a display, if it exists. -/
def pixel? (d : Display) (line column row col : Nat) : Option Bool :=
  (d.get? line column).bind (·.get? row col)

/-- Displays are equal as soon as their pixels are. -/
theorem ext_pixel {d e : Display}
    (same : ∀ line column row col, d.pixel line column row col = e.pixel line column row col) :
    d = e :=
  Grid.ext_get fun line column => Grid.ext_get fun row col => same line column row col

section

variable (d : Display) (line l : Fin lcdLines) (column c : Fin lcdColumns)
  (row r : Fin glyphRows) (col k : Fin glyphColumns)

@[simp] theorem pixel?_fin :
    d.pixel? line column row col = some (d.pixel line column row col) := by
  simp only [pixel?, pixel, Grid.get?_fin, Option.bind_some]

@[simp] theorem pixel_blank : blank.pixel l c r k = false := by
  simp only [pixel, get_blank, Bitmap.get_blank]

/-- Replacing a cell replaces its pixels and leaves the others alone. -/
theorem pixel_set (b : Bitmap) :
    pixel (d.set line column b) l c r k =
      if l = line ∧ c = column then b.get r k else d.pixel l c r k := by
  rw [pixel, Grid.get_set]
  split <;> rfl

/-- Setting a pixel leaves the others alone. -/
theorem pixel_set_set (on : Bool) :
    pixel (d.set line column ((d.get line column).set row col on)) l c r k =
      if l = line ∧ c = column ∧ r = row ∧ k = col then on else d.pixel l c r k := by
  rw [pixel_set]
  by_cases hcell : l = line ∧ c = column
  · obtain ⟨rfl, rfl⟩ := hcell
    simp only [and_self, if_true, true_and, Grid.get_set]
    rfl
  · rw [if_neg hcell, if_neg]
    rintro ⟨hl, hc, -⟩
    exact hcell ⟨hl, hc⟩

end

end Display

/-! ## Targets -/

/-- What an operation on a session can address. -/
inductive Target where
  | pixel (line column row col : Nat)
  | cell (line column : Nat)
  | display
  | options

/-- Whether a pixel of the display belongs to a target. -/
def Target.covers (p : Target) (l : Fin lcdLines) (c : Fin lcdColumns) (r : Fin glyphRows)
    (k : Fin glyphColumns) : Bool :=
  match p with
  | pixel line column row col => l.val = line ∧ c.val = column ∧ r.val = row ∧ k.val = col
  | cell line column => l.val = line ∧ c.val = column
  | display => true
  | options => false

/-- A cell exists. -/
def CellExists (line column : Nat) : Prop := line < lcdLines ∧ column < lcdColumns

/-- A pixel exists. -/
def PixelExists (line column row col : Nat) : Prop :=
  CellExists line column ∧ row < glyphRows ∧ col < glyphColumns

section

variable {line column row col : Nat} (l : Fin lcdLines) (c : Fin lcdColumns) (r : Fin glyphRows)
  (k : Fin glyphColumns)

theorem CellExists.exists_fin (h : CellExists line column) :
    ∃ (l : Fin lcdLines) (c : Fin lcdColumns), l.val = line ∧ c.val = column :=
  ⟨⟨line, h.1⟩, ⟨column, h.2⟩, rfl, rfl⟩

theorem PixelExists.exists_fin (h : PixelExists line column row col) :
    ∃ (l : Fin lcdLines) (c : Fin lcdColumns) (r : Fin glyphRows) (k : Fin glyphColumns),
      l.val = line ∧ c.val = column ∧ r.val = row ∧ k.val = col :=
  ⟨⟨line, h.1.1⟩, ⟨column, h.1.2⟩, ⟨row, h.2.1⟩, ⟨col, h.2.2⟩, rfl, rfl, rfl, rfl⟩

theorem Target.covers_cell_fin (line : Fin lcdLines) (column : Fin lcdColumns) :
    (cell line column).covers l c r k = true ↔ l = line ∧ c = column := by
  simp only [covers, decide_eq_true_eq, Fin.val_inj]

theorem Target.covers_pixel_fin (line : Fin lcdLines) (column : Fin lcdColumns)
    (row : Fin glyphRows) (col : Fin glyphColumns) :
    (pixel line column row col).covers l c r k = true ↔
      l = line ∧ c = column ∧ r = row ∧ k = col := by
  simp only [covers, decide_eq_true_eq, Fin.val_inj]

/-- No pixel belongs to a cell that does not exist. -/
theorem Target.not_covers_cell (h : ¬ CellExists line column) :
    ¬ (cell line column).covers l c r k = true := by
  simp only [covers, decide_eq_true_eq]
  rintro ⟨rfl, rfl⟩
  exact h ⟨l.isLt, c.isLt⟩

theorem Target.not_covers_pixel (h : ¬ PixelExists line column row col) :
    ¬ (pixel line column row col).covers l c r k = true := by
  simp only [covers, decide_eq_true_eq]
  rintro ⟨rfl, rfl, rfl, rfl⟩
  exact h ⟨⟨l.isLt, c.isLt⟩, r.isLt, k.isLt⟩

theorem Display.pixel?_eq_none_iff {d : Display} :
    d.pixel? line column row col = none ↔ ¬ PixelExists line column row col := by
  constructor
  · intro hnone hexists
    obtain ⟨l, c, r, k, rfl, rfl, rfl, rfl⟩ := hexists.exists_fin
    rw [Display.pixel?_fin] at hnone
    cases hnone
  · intro h
    unfold Display.pixel?
    cases hcell : d.get? line column with
    | none => rfl
    | some b =>
      obtain ⟨hline, hcolumn, -⟩ := Grid.get?_eq_some_iff.mp hcell
      exact Grid.get?_eq_none_iff.mpr fun hpixel => h ⟨⟨hline, hcolumn⟩, hpixel⟩

end

namespace Session

/-! ## Edits of one cell -/

section

variable (s : Session)

section

variable (line : Fin lcdLines) (column : Fin lcdColumns) (row : Fin glyphRows)
  (col : Fin glyphColumns)

theorem setPixel_fin (on : Bool) :
    s.setPixel line column row col on =
      if s.display.pixel line column row col = on then (s, false)
      else
        (s.setDisplay (s.display.set line column ((s.display.get line column).set row col on)),
          true) := by
  unfold setPixel Display.pixel
  simp only [Grid.get?_fin, Grid.set?_fin, Option.some.injEq]

theorem setCell_fin (b : Bitmap) :
    s.setCell line column b =
      if s.display.get line column = b then (s, false)
      else (s.setDisplay (s.display.set line column b), true) := by
  simp only [setCell, Grid.get?_fin, Grid.set?_fin, Option.some.injEq]

theorem copyCell_fin :
    s.copyCell line column = ({ s with clipboard := some (s.display.get line column) }, true) := by
  simp only [copyCell, Grid.get?_fin]

/-- Whether that changes anything or not, the pixel is as it is asked for. -/
theorem display_setPixel_fin (on : Bool) :
    (s.setPixel line column row col on).1.display =
      s.display.set line column ((s.display.get line column).set row col on) := by
  rw [setPixel_fin]
  split
  next hsame => rw [← hsame, Display.pixel, Grid.set_get_self, Grid.set_get_self]
  next => rfl

/-- Setting a pixel of a display that has just been put into a session gives the same as putting
the display with that pixel into it. -/
theorem setPixel_setDisplay_fst (d : Display) (on : Bool) :
    ((s.setDisplay d).setPixel line column row col on).1 =
      s.setDisplay (d.set line column ((d.get line column).set row col on)) := by
  rw [setPixel_fin]
  split
  next hsame =>
    rw [← hsame]
    show s.setDisplay d = _
    rw [display_setDisplay, Display.pixel, Grid.set_get_self, Grid.set_get_self]
  next => rfl

/-- Whether that changes anything or not, the cell holds the bitmap. -/
theorem display_setCell_fin (b : Bitmap) :
    (s.setCell line column b).1.display = s.display.set line column b := by
  rw [setCell_fin]
  split
  next hsame => rw [← hsame, Grid.set_get_self]
  next => rfl

end

variable {line column row col : Nat}

theorem setPixel_of_not_exists (on : Bool) (h : ¬ PixelExists line column row col) :
    s.setPixel line column row col on = (s, false) := by
  unfold setPixel
  split
  next => rfl
  next cell hcell =>
    obtain ⟨hline, hcolumn, -⟩ := Grid.get?_eq_some_iff.mp hcell
    have hset : cell.set? row col on = none :=
      Grid.set?_eq_none_iff.mpr fun hpixel => h ⟨⟨hline, hcolumn⟩, hpixel⟩
    rw [hset]
    split <;> rfl

theorem togglePixel_of_not_exists (h : ¬ PixelExists line column row col) :
    s.togglePixel line column row col = (s, none) := by
  have hnone : (s.display.get? line column).bind (·.toggle? row col) = none := by
    have hpixel := (Display.pixel?_eq_none_iff (d := s.display)).mpr h
    unfold Display.pixel? at hpixel
    cases hcell : s.display.get? line column with
    | none => rfl
    | some cell =>
      rw [hcell, Option.bind_some] at hpixel
      rw [Option.bind_some, Bitmap.toggle?, hpixel]
      rfl
  rw [togglePixel, hnone]

theorem setCell_of_not_exists (b : Bitmap) (h : ¬ CellExists line column) :
    s.setCell line column b = (s, false) := by
  have hset : s.display.set? line column b = none := Grid.set?_eq_none_iff.mpr h
  rw [setCell, hset]
  split <;> rfl

theorem copyCell_of_not_exists (h : ¬ CellExists line column) :
    s.copyCell line column = (s, false) := by
  rw [copyCell, Grid.get?_eq_none_iff.mpr h]

end

/-! ## Copying and options -/

section

variable (s : Session)

theorem display_copyCell (line column : Nat) :
    (s.copyCell line column).1.display = s.display := by
  unfold copyCell
  split <;> rfl

theorem options_copyCell (line column : Nat) :
    (s.copyCell line column).1.options = s.options := by
  unfold copyCell
  split <;> rfl

theorem display_setOptions (o : Options) : (s.setOptions o).1.display = s.display := by
  unfold setOptions
  split <;> rfl

theorem clipboard_setOptions (o : Options) : (s.setOptions o).1.clipboard = s.clipboard := by
  unfold setOptions
  split <;> rfl

end

/-! ## What operations do -/

namespace Operation

/-- What an operation addresses. -/
def target : Operation → Target
  | setPixel line column row col _ | togglePixel line column row col => .pixel line column row col
  | setCell line column _ | clearCell line column | copyCell line column
  | pasteCell line column => .cell line column
  | resetDisplay => .display
  | setOptions _ | updateOptions _ => .options

/-- Whether an operation copies a cell. -/
def copies : Operation → Bool
  | copyCell _ _ => true
  | _ => false

/-- Whether an operation pastes into a cell. -/
def pastes : Operation → Bool
  | pasteCell _ _ => true
  | _ => false

/-- What an operation makes of a pixel that it addresses. -/
def ink (op : Operation) (clipboard : Option Bitmap) (row : Fin glyphRows)
    (col : Fin glyphColumns) (old : Bool) : Bool :=
  match op with
  | setPixel _ _ _ _ on => on
  | togglePixel _ _ _ _ => !old
  | setCell _ _ b => b.get row col
  | clearCell _ _ | resetDisplay => false
  | pasteCell _ _ => clipboard.elim old (·.get row col)
  | copyCell _ _ | setOptions _ | updateOptions _ => old

/-- What an operation makes of the options. -/
def adjust (op : Operation) (o : Options) : Options :=
  match op with
  | setOptions o' => o'.clamped
  | updateOptions change => (change o).clamped
  | _ => o

/-- The bitmap that an operation copies from a display, if it copies one. -/
def copied? (op : Operation) (d : Display) : Option Bitmap :=
  match op with
  | copyCell line column => d.get? line column
  | _ => none

variable {op : Operation}

theorem adjust_of_target_ne (h : op.target ≠ .options) (o : Options) : op.adjust o = o := by
  cases op with
  | setOptions | updateOptions => exact absurd rfl h
  | _ => rfl

theorem copied?_of_not_copies (h : op.copies = false) (d : Display) : op.copied? d = none := by
  cases op with
  | copyCell => cases h
  | _ => rfl

end Operation

section

variable (s : Session) (l : Fin lcdLines) (c : Fin lcdColumns) (r : Fin glyphRows)
  (k : Fin glyphColumns) (line column row col : Nat)

theorem pixel_setPixel (on : Bool) :
    (s.setPixel line column row col on).1.display.pixel l c r k =
      if (Target.pixel line column row col).covers l c r k then on
      else s.display.pixel l c r k := by
  by_cases hexists : PixelExists line column row col
  · obtain ⟨line, column, row, col, rfl, rfl, rfl, rfl⟩ := hexists.exists_fin
    simp only [Target.covers_pixel_fin, display_setPixel_fin, Display.pixel_set_set]
  · rw [setPixel_of_not_exists s on hexists, if_neg (Target.not_covers_pixel l c r k hexists)]

theorem pixel_togglePixel :
    (s.togglePixel line column row col).1.display.pixel l c r k =
      if (Target.pixel line column row col).covers l c r k then !(s.display.pixel l c r k)
      else s.display.pixel l c r k := by
  by_cases hexists : PixelExists line column row col
  · obtain ⟨line, column, row, col, rfl, rfl, rfl, rfl⟩ := hexists.exists_fin
    simp only [Target.covers_pixel_fin, togglePixel_fin, display_setDisplay, Display.pixel_set_set]
    split
    next h =>
      obtain ⟨rfl, rfl, rfl, rfl⟩ := h
      rfl
    next => rfl
  · rw [togglePixel_of_not_exists s hexists, if_neg (Target.not_covers_pixel l c r k hexists)]

theorem pixel_setCell (b : Bitmap) :
    (s.setCell line column b).1.display.pixel l c r k =
      if (Target.cell line column).covers l c r k then b.get r k else s.display.pixel l c r k := by
  by_cases hexists : CellExists line column
  · obtain ⟨line, column, rfl, rfl⟩ := hexists.exists_fin
    simp only [Target.covers_cell_fin, display_setCell_fin, Display.pixel_set]
  · rw [setCell_of_not_exists s b hexists, if_neg (Target.not_covers_cell l c r k hexists)]

/-- An operation works on each pixel that it addresses by itself, and leaves the others alone. -/
theorem pixel_perform (op : Operation) :
    (s.perform op).display.pixel l c r k =
      if op.target.covers l c r k then op.ink s.clipboard r k (s.display.pixel l c r k)
      else s.display.pixel l c r k := by
  cases op with
  | setPixel line column row col on => exact s.pixel_setPixel l c r k line column row col on
  | togglePixel line column row col => exact s.pixel_togglePixel l c r k line column row col
  | setCell line column b => exact s.pixel_setCell l c r k line column b
  | clearCell line column =>
    refine (s.pixel_setCell l c r k line column Bitmap.blank).trans ?_
    rw [Bitmap.get_blank]
    rfl
  | resetDisplay => exact Display.pixel_blank l c r k
  | copyCell line column =>
    simp only [perform, display_copyCell]
    exact (ite_self _).symm
  | pasteCell line column =>
    show (s.pasteCell line column).1.display.pixel l c r k = _
    unfold pasteCell
    split
    next hnone =>
      rw [hnone]
      exact (ite_self _).symm
    next b hb =>
      rw [hb]
      exact s.pixel_setCell l c r k line column b
  | setOptions o =>
    simp only [perform, display_setOptions]
    rfl
  | updateOptions change =>
    simp only [perform, updateOptions, display_setOptions]
    rfl

theorem options_perform (op : Operation) : (s.perform op).options = op.adjust s.options := by
  cases op with
  | setPixel line column row col on =>
    exact (s.retouched_setPixel line column row col on).options_eq
  | togglePixel line column row col =>
    exact (s.retouched_togglePixel line column row col).options_eq
  | setCell line column b => exact (s.retouched_setCell line column b).options_eq
  | clearCell line column => exact (s.retouched_clearCell line column).options_eq
  | resetDisplay => rfl
  | copyCell line column => exact s.options_copyCell line column
  | pasteCell line column => exact (s.retouched_pasteCell line column).options_eq
  | setOptions o => exact s.options_setOptions o
  | updateOptions change => exact s.options_setOptions (change s.options)

theorem clipboard_perform (op : Operation) :
    (s.perform op).clipboard = (op.copied? s.display).or s.clipboard := by
  cases op with
  | setPixel line column row col on =>
    exact (s.retouched_setPixel line column row col on).clipboard_eq
  | togglePixel line column row col =>
    exact (s.retouched_togglePixel line column row col).clipboard_eq
  | setCell line column b => exact (s.retouched_setCell line column b).clipboard_eq
  | clearCell line column => exact (s.retouched_clearCell line column).clipboard_eq
  | resetDisplay => rfl
  | copyCell line column =>
    simp only [perform, copyCell, Operation.copied?]
    cases s.display.get? line column <;> rfl
  | pasteCell line column => exact (s.retouched_pasteCell line column).clipboard_eq
  | setOptions o => exact s.clipboard_setOptions o
  | updateOptions change => exact s.clipboard_setOptions (change s.options)

end

end Session
end CharLcd
