import CharLcd.Proofs.Editor.Reopening
import CharLcd.Proofs.Editor.SelectedCell

/-!
# The indices of an editor

The selected cell, the pixel cursor, the marked answer and the interval are counted with plain
numbers here, and moved by plain arithmetic: nothing is cut down to its range afterwards. A run
never leaves the ranges, so that the selected cell and the pixel under the cursor always exist.

- `Indices`, `Editor.indices`: the numbers, and those of an editor.
- `Indices.Valid`: all are in range.
- `Indices.Next`: what an event can do to the numbers; `Indices.Next.valid` is the arithmetic.
- `Editor.next_handle`: every event counts like that.
- `Editor.indices_stay_valid`: what follows for every run.
-/

namespace CharLcd

open LcdView Terminal

/-- What the state of an editor counts. -/
structure Indices where
  line : Nat
  column : Nat
  pixelRow : Nat
  pixelColumn : Nat
  /-- The marked answer of an open question: 0 is yes and 1 is no. -/
  marked : Option Nat
  intervalMs : Nat
  deriving DecidableEq, Repr

namespace Indices

/-- All numbers are in range. -/
structure Valid (i : Indices) : Prop where
  line_lt : i.line < lcdLines
  column_lt : i.column < lcdColumns
  pixelRow_lt : i.pixelRow < glyphRows
  pixelColumn_lt : i.pixelColumn < glyphColumns
  marked_le : ∀ n, i.marked = some n → n ≤ 1
  le_intervalMs : 1 ≤ i.intervalMs
  intervalMs_lt : i.intervalMs < UInt32.size

/-- The place of a cell in scan order that is some cells further than the selected one; the last
cell is followed by the first. -/
def placeAfter (i : Indices) (cells : Int) : Nat :=
  (((lcdColumns * i.line + i.column : Nat) + cells) % (lcdLines * lcdColumns : Nat)).toNat

/-- What an event can do to the numbers, where keys change the interval by `step`. -/
inductive Next (step : Nat) (i : Indices) : Indices → Prop where
  | same : Next step i i
  | cell (lines columns : Int) :
    Next step i { i with
      line := ((i.line + lines) % lcdLines).toNat
      column := ((i.column + columns) % lcdColumns).toNat }
  | scan (cells : Int) :
    Next step i { i with
      line := i.placeAfter cells / lcdColumns
      column := i.placeAfter cells % lcdColumns }
  | clickedCell (line column : Nat) (h : line < lcdLines ∧ column < lcdColumns) :
    Next step i { i with line, column }
  | pixel (rows columns : Int) :
    Next step i { i with
      pixelRow := ((i.pixelRow + rows) % glyphRows).toNat
      pixelColumn := ((i.pixelColumn + columns) % glyphColumns).toNat }
  | clickedPixel (row column : Nat) (h : row < glyphRows ∧ column < glyphColumns) :
    Next step i { i with pixelRow := row, pixelColumn := column }
  | asked : Next step i { i with marked := some 1 }
  | remarked (n : Nat) (h : i.marked = some n) : Next step i { i with marked := some (1 - n) }
  | answered : Next step i { i with marked := none }
  | slower :
    Next step i { i with intervalMs := max (min (i.intervalMs + step) (UInt32.size - 1)) 1 }
  | faster : Next step i { i with intervalMs := max (i.intervalMs - step) 1 }

variable {i j : Indices} {step : Nat}

/-- An event keeps all numbers in range. -/
theorem Next.valid (h : i.Next step j) (hi : i.Valid) : j.Valid := by
  cases h with
  | same => exact hi
  | cell lines columns =>
    exact { hi with
      line_lt := Editor.toNat_emod_lt lcdLines_pos _
      column_lt := Editor.toNat_emod_lt lcdColumns_pos _ }
  | scan cells =>
    have hplace : i.placeAfter cells < lcdLines * lcdColumns :=
      Editor.toNat_emod_lt (Nat.mul_pos lcdLines_pos lcdColumns_pos) _
    exact { hi with
      line_lt := Nat.div_lt_of_lt_mul (Nat.mul_comm lcdLines lcdColumns ▸ hplace)
      column_lt := Nat.mod_lt _ lcdColumns_pos }
  | clickedCell line column h => exact { hi with line_lt := h.1, column_lt := h.2 }
  | pixel rows columns =>
    exact { hi with
      pixelRow_lt := Editor.toNat_emod_lt glyphRows_pos _
      pixelColumn_lt := Editor.toNat_emod_lt glyphColumns_pos _ }
  | clickedPixel row column h => exact { hi with pixelRow_lt := h.1, pixelColumn_lt := h.2 }
  | asked =>
    refine { hi with marked_le := ?_ }
    rintro n ⟨⟩
    exact Nat.le_refl 1
  | remarked n h =>
    refine { hi with marked_le := ?_ }
    rintro _ ⟨⟩
    exact Nat.sub_le 1 n
  | answered => exact { hi with marked_le := nofun }
  | slower =>
    refine { hi with le_intervalMs := Nat.le_max_right _ _, intervalMs_lt := ?_ }
    have hsize : 1 < UInt32.size := by decide
    show max (min (i.intervalMs + step) (UInt32.size - 1)) 1 < UInt32.size
    omega
  | faster =>
    refine { hi with le_intervalMs := Nat.le_max_right _ _, intervalMs_lt := ?_ }
    have hsize : 1 < UInt32.size := by decide
    have hlt := hi.intervalMs_lt
    show max (i.intervalMs - step) 1 < UInt32.size
    omega

end Indices

/-- The marked answer of an open question. -/
def Mode.marked? : Mode → Option Nat
  | normal => none
  | asking _ yes => some (if yes then 0 else 1)

namespace Editor

/-- The numbers in the state of an editor. -/
def indices (s : Editor) : Indices where
  line := s.line
  column := s.column
  pixelRow := s.pixelRow
  pixelColumn := s.pixelColumn
  marked := s.mode.marked?
  intervalMs := s.session.options.intervalMs.toNat

section

variable (s : Editor) (now : Time) (step : Nat)

/-! ## Selection -/

theorem indices_selectCell {line column : Nat} (h : line < lcdLines ∧ column < lcdColumns) :
    (s.selectCell line column).indices = { s.indices with line, column } := by
  rw [selectCell, dif_pos h]
  rfl

/-- The cell that is some cells further exists, so that it is selected. -/
theorem indices_stepCell (cells : Int) :
    (s.stepCell cells).indices =
      { s.indices with
        line := s.indices.placeAfter cells / lcdColumns
        column := s.indices.placeAfter cells % lcdColumns } := by
  have hplace : s.indices.placeAfter cells < lcdLines * lcdColumns :=
    toNat_emod_lt (Nat.mul_pos lcdLines_pos lcdColumns_pos) _
  have hline : s.indices.placeAfter cells / lcdColumns < lcdLines :=
    Nat.div_lt_of_lt_mul (Nat.mul_comm lcdLines lcdColumns ▸ hplace)
  exact s.indices_selectCell ⟨hline, Nat.mod_lt _ lcdColumns_pos⟩

theorem next_arrow (a : KeyCode) : s.indices.Next step (s.arrow a).indices := by
  cases a with
  | up => exact .pixel (-1) 0
  | down => exact .pixel 1 0
  | left => exact .pixel 0 (-1)
  | right => exact .pixel 0 1
  | _ => exact .same

/-! ## Edits -/

theorem options_edit {e : Edit} (hne : ∀ change, e ≠ .updateOptions change) :
    (s.edit now e).session.options = s.session.options := by
  have h := s.edited_edit now e
  generalize (s.edit now e).session = t at h ⊢
  cases h with
  | retouched _ h => exact h.options_eq
  | adjusted change => exact absurd rfl (hne change)
  | reset | copied => rfl

theorem options_updateOptions (change : Options → Options) :
    (s.updateOptions now change).session.options = (change s.session.options).clamped := by
  unfold updateOptions
  dsimp only
  split <;> exact s.session.options_setOptions _

/-- The cursor goes to the pixel where the mouse begins to paint; other edits leave it alone. -/
theorem cursor_edit (e : Edit) :
    ((s.edit now e).pixelRow = s.pixelRow ∧ (s.edit now e).pixelColumn = s.pixelColumn) ∨
      ∃ row column, e = .beginPaint row column ∧
        (s.edit now e).pixelRow.val = row ∧ (s.edit now e).pixelColumn.val = column := by
  cases e with
  | beginPaint row column =>
    simp only [edit, beginPaint]
    split
    next => exact .inr ⟨row, column, rfl, rfl, rfl⟩
    next => exact .inl ⟨rfl, rfl⟩
  | paintAt row column =>
    simp only [edit, paintAt]
    split <;> exact .inl ⟨rfl, rfl⟩
  | pasteCell =>
    simp only [edit, pasteCell]
    split <;> exact .inl ⟨rfl, rfl⟩
  | updateOptions change =>
    simp only [edit, updateOptions]
    split <;> exact .inl ⟨rfl, rfl⟩
  | togglePlayback =>
    simp only [edit, togglePlayback]
    split
    next => exact .inl ⟨rfl, rfl⟩
    next => split <;> exact .inl ⟨rfl, rfl⟩
  | _ => exact .inl ⟨rfl, rfl⟩

theorem indices_edit (e : Edit) :
    (s.edit now e).indices =
      { s.indices with
        pixelRow := (s.edit now e).pixelRow, pixelColumn := (s.edit now e).pixelColumn
        intervalMs := (s.edit now e).session.options.intervalMs.toNat } :=
  congrArg indices (s.edit_eq now e)

theorem indices_edit_eq_self {e : Edit} (hpaint : ∀ row column, e ≠ .beginPaint row column)
    (hoptions : ∀ change, e ≠ .updateOptions change) : (s.edit now e).indices = s.indices := by
  rw [indices_edit, s.options_edit now hoptions]
  rcases s.cursor_edit now e with ⟨hrow, hcolumn⟩ | ⟨row, column, hbegin, -⟩
  · rw [hrow, hcolumn]
    rfl
  · exact absurd hbegin (hpaint row column)

theorem next_edit {e : Edit} (hoptions : ∀ change, e ≠ .updateOptions change) :
    s.indices.Next step (s.edit now e).indices := by
  rw [indices_edit, s.options_edit now hoptions]
  rcases s.cursor_edit now e with ⟨hrow, hcolumn⟩ | ⟨row, column, -, hrow, hcolumn⟩
  · rw [hrow, hcolumn]
    exact .same
  · exact .clickedPixel _ _ ⟨Fin.isLt _, Fin.isLt _⟩

/-- When the options change, the interval is set to what is asked for, and to one millisecond at
least. -/
theorem indices_updateOptions (change : Options → Options) :
    (s.updateOptions now change).indices =
      { s.indices with intervalMs := max (change s.session.options).intervalMs.toNat 1 } := by
  have hcursor := s.cursor_edit now (.updateOptions change)
  obtain ⟨hrow, hcolumn⟩ := hcursor.resolve_right (by simp)
  rw [← Options.toNat_intervalMs_clamped, ← s.options_updateOptions now]
  refine (s.indices_edit now (.updateOptions change)).trans ?_
  rw [hrow, hcolumn]
  rfl

theorem next_perform (hs : 0 < s.session.options.intervalMs) (f : KeyFunction) :
    s.indices.Next s.config.intervalStep.toNat (s.perform now f).indices := by
  have hpos : max s.session.options.intervalMs.toNat 1 = s.session.options.intervalMs.toNat := by
    rw [← Options.toNat_intervalMs_clamped, Options.clamped_eq_self hs]
  cases f with
  | cellLeft => exact .cell 0 (-1)
  | cellRight => exact .cell 0 1
  | cellUp => exact .cell (-1) 0
  | cellDown => exact .cell 1 0
  | nextCell =>
    show Indices.Next _ _ (s.stepCell 1).indices
    rw [indices_stepCell]
    exact .scan 1
  | prevCell =>
    show Indices.Next _ _ (s.stepCell (-1)).indices
    rw [indices_stepCell]
    exact .scan (-1)
  | togglePixel => exact s.next_edit now _ (e := .togglePixel) nofun
  | clearCell => exact s.next_edit now _ (e := .clearCell) nofun
  | copyCell => exact s.next_edit now _ (e := .copyCell) nofun
  | pasteCell => exact s.next_edit now _ (e := .pasteCell) nofun
  | play => exact s.next_edit now _ (e := .togglePlayback) nofun
  | resetDisplay => exact .asked
  | transmission | numberFormat | scrolling | buffered | direction =>
    show Indices.Next _ _ (s.updateOptions now _).indices
    rw [indices_updateOptions, hpos]
    exact .same
  | slower =>
    show Indices.Next _ _ (s.updateOptions now _).indices
    rw [indices_updateOptions, Options.toNat_intervalMs_slower]
    exact .slower
  | faster =>
    show Indices.Next _ _ (s.updateOptions now _).indices
    rw [indices_updateOptions, Options.toNat_intervalMs_faster, Nat.max_assoc, Nat.max_self]
    exact .faster
  | codeUp | codeDown | quit | save | exportSketch | confirm | cancel => exact .same

/-! ## Events -/

/-- An event counts by plain arithmetic. -/
theorem next_handle (hs : 0 < s.session.options.intervalMs) (l : Layout) (e : Event) :
    s.indices.Next s.config.intervalStep.toNat (s.handle now l e).1.indices := by
  have h := s.handled_handle now l e
  generalize s.handle now l e = r at h ⊢
  cases h with
  | moved a => exact next_arrow { s with status := none } _ a
  | performed f => exact next_perform { s with status := none } now hs f
  | asked => exact .asked
  | marked q yes hmode =>
    have hmarked : s.indices.marked = some (if yes then 0 else 1) := by
      show s.mode.marked? = _
      rw [hmode]
      rfl
    have hnext := @Indices.Next.remarked s.config.intervalStep.toNat s.indices _ hmarked
    cases yes <;> exact hnext
  | answered q yes said =>
    have hoptions : (s.answer q said).1.session.options = s.session.options := by
      cases q <;> cases said <;> rfl
    have hindices : (s.answer q said).1.indices = { s.indices with marked := none } := by
      rw [answer_eq]
      simp only [indices, hoptions]
      rfl
    rw [hindices]
    exact .answered
  | pressed row column => exact s.next_edit now _ (e := .beginPaint row column) nofun
  | selected line column =>
    rw [s.indices_selectCell ⟨line.isLt, column.isLt⟩]
    exact .clickedCell _ _ ⟨line.isLt, column.isLt⟩
  | dragged row column =>
    have hindices := indices_edit_eq_self { s with pixelRow := row, pixelColumn := column } now
      (e := .paintAt row column) nofun nofun
    exact hindices ▸ .clickedPixel _ _ ⟨row.isLt, column.isLt⟩
  | _ => exact .same

/-! ## Runs -/

theorem valid_edit (hs : s.indices.Valid) (e : Edit) : (s.edit now e).indices.Valid := by
  cases e with
  | updateOptions change =>
    show (s.updateOptions now change).indices.Valid
    rw [indices_updateOptions]
    have hlt : (change s.session.options).intervalMs.toNat < UInt32.size := UInt32.toNat_lt _
    have hmax : max (change s.session.options).intervalMs.toNat 1 < UInt32.size :=
      Nat.max_lt.mpr ⟨hlt, by decide⟩
    exact { hs with le_intervalMs := Nat.le_max_right _ _, intervalMs_lt := hmax }
  | _ =>
    refine (s.next_edit now 0 ?_).valid hs
    exact nofun

theorem valid_move (hs : s.indices.Valid) (m : Move) : (s.move m).indices.Valid := by
  cases m with
  | event now l e =>
    have hpos : 0 < s.session.options.intervalMs := UInt32.lt_iff_toNat_lt.mpr hs.le_intervalMs
    exact (s.next_handle now hpos l e).valid hs
  | edit now e => exact s.valid_edit now hs e
  | tick now => exact hs
  | save result => cases result <;> exact hs
  | exportSketch result => cases result <;> exact hs

theorem valid_moves (hs : s.indices.Valid) (ms : List Move) : (s.moves ms).indices.Valid := by
  induction ms generalizing s with
  | nil => exact hs
  | cons m ms ih => exact ih _ (s.valid_move hs m)

/-- An editor is opened on the first cell and the first pixel, with no question. -/
theorem valid_of_openFile {path : String} {content : Option (Except FileError String)}
    {config : EditorConfig} {opened : Editor} (h : openFile path content config = .ok opened) :
    opened.indices.Valid := by
  have hpos := (storable_of_openFile h).interval
  obtain ⟨d, o, -, rfl⟩ := openFile_eq_ok h
  exact {
    line_lt := lcdLines_pos
    column_lt := lcdColumns_pos
    pixelRow_lt := glyphRows_pos
    pixelColumn_lt := glyphColumns_pos
    marked_le := nofun
    le_intervalMs := UInt32.lt_iff_toNat_lt.mp hpos
    intervalMs_lt := UInt32.toNat_lt _ }

/-- The pixel under the cursor is flipped. -/
theorem togglePixel_eq :
    let on := !s.currentCell.get s.pixelRow s.pixelColumn
    s.togglePixel =
      { s with
        dirty := true
        session := s.session.setDisplay (s.session.display.set s.line s.column
          (s.currentCell.set s.pixelRow s.pixelColumn on)) } := by
  intro on
  unfold togglePixel
  rw [Session.togglePixel_fin]
  simp only [apply, Option.isSome_some, Bool.or_true]
  rfl

end

/-- In every run from an opened file all numbers stay in range, although events count by plain
arithmetic. So the selected cell exists, the pixel under the cursor can be flipped, the other answer
is found by a subtraction that does not fall below zero, and the preview always waits. -/
theorem indices_stay_valid {path : String} {content : Option (Except FileError String)}
    {config : EditorConfig} {opened : Editor} (h : openFile path content config = .ok opened)
    (ms : List Move) :
    let s := opened.moves ms
    let i := s.indices
    let on := s.currentCell.get s.pixelRow s.pixelColumn
    i.Valid ∧
      (∀ now l e, i.Next s.config.intervalStep.toNat (s.handle now l e).1.indices) ∧
      s.session.display.get? i.line i.column = some s.currentCell ∧
      (s.session.togglePixel i.line i.column i.pixelRow i.pixelColumn).2 = some !on ∧
      s.togglePixel.dirty = true ∧
      s.togglePixel.currentCell = s.currentCell.set s.pixelRow s.pixelColumn !on ∧
      (∀ n, i.marked = some n → 1 - n + n = 1) ∧
      0 < s.session.plan.intervalMs := by
  intro s i on
  have hstorable : s.session.Storable := storable_moves h ms
  have hvalid : i.Valid := opened.valid_moves (valid_of_openFile h) ms
  refine ⟨hvalid, ?_, ?_, ?_, ?_, ?_, ?_, hstorable.current.intervalMs_pos⟩
  · intro now l e
    exact s.next_handle now hstorable.interval l e
  · exact Grid.get?_fin _ _ _
  · exact congrArg Prod.snd (s.session.togglePixel_fin _ _ _ _)
  · rw [togglePixel_eq]
  · rw [togglePixel_eq]
    exact Grid.get_set_self _ _ _ _
  · intro n hn
    exact Nat.sub_add_cancel (hvalid.marked_le n hn)

/-- With the largest step, one key takes the interval to its upper end and another to its lower
end. From the first cell and pixel the keys go around to the last line, column and row of pixels;
then a question is opened and its other answer marked. -/
theorem indices_stay_valid_largest_step :
    let opened := ofSession Session.blank "design.json" { intervalStep := 4294967295 }
    let press (k : KeyCode) : Move := .event 0 (Layout.ofSize ⟨80, 24⟩) (.key ⟨k, {}⟩)
    let slowest := opened.moves [press (.char '+')]
    let s := opened.moves ([.char '+', .char '-', .backTab, .up, .char 'R', .tab].map press)
    openFile "design.json" none { intervalStep := 4294967295 } = .ok opened ∧
      slowest.indices = ⟨0, 0, 0, 0, none, 4294967295⟩ ∧ slowest.indices.Valid ∧
      s.indices = ⟨1, 15, 7, 0, some 0, 1⟩ ∧ s.indices.Valid ∧
      s.session.display.get? 1 15 = some s.currentCell ∧
      s.togglePixel.dirty = true := by
  intro opened press slowest s
  have hopen : openFile "design.json" none { intervalStep := 4294967295 } = .ok opened := rfl
  have hslowest : slowest.indices = ⟨0, 0, 0, 0, none, 4294967295⟩ := by decide +kernel
  have hindices : s.indices = ⟨1, 15, 7, 0, some 0, 1⟩ := by decide +kernel
  obtain ⟨hupper, -⟩ := indices_stay_valid hopen [press (.char '+')]
  obtain ⟨hvalid, -, hcell, -, hdirty, -⟩ := indices_stay_valid hopen
    ([.char '+', .char '-', .backTab, .up, .char 'R', .tab].map press)
  have hline : s.indices.line = 1 := congrArg Indices.line hindices
  have hcolumn : s.indices.column = 15 := congrArg Indices.column hindices
  refine ⟨hopen, hslowest, hupper, hindices, hvalid, ?_, hdirty⟩
  rw [← hline, ← hcolumn]
  exact hcell

end Editor

end CharLcd
