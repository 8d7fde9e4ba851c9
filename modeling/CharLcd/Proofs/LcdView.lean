import CharLcd.LcdView
import CharLcd.Proofs.Frame
import CharLcd.Proofs.Terminal.Printing

/-!
# What drawing leaves on the screen

- `LcdView.slotAt?_eq_some_iff`: a slot is found at the positions that it is drawn on.
- `LcdView.slotCell`: what stands there when a bitmap is drawn.
- `LcdView.drawSlots`, `LcdView.cell_run_drawSlots`: what drawing some slots leaves at a position
  of one of them.
- `LcdView.cell_run_drawLcd`: what drawing a frame leaves there; `cell_run_drawLcd_of_forall` is
  about all other positions.
- `LcdView.cell_run_changed`: drawing the slots that change makes a box show another frame.
- `LcdView.drawsIn_drawLcd`: drawing a frame keeps to the box; `mem_printed_drawLcd` says which
  positions it prints to, whatever the frame.
-/

namespace CharLcd.LcdView

open Terminal

variable {s : Screen} {box p : Position}

/-! ## Positions -/

/-- A slot is found at the positions that it is drawn on. -/
theorem slotAt?_eq_some_iff {line : Fin lcdLines} {column : Fin lcdColumns} :
    slotAt? box p = some (line, column) ↔
      let origin := slotOrigin box line column
      (origin.row ≤ p.row ∧ p.row < origin.row + slotRows) ∧
        origin.column ≤ p.column ∧ p.column < origin.column + slotColumns := by
  have hline := line.isLt
  have hcolumn := column.isLt
  unfold slotAt? slotOrigin
  dsimp only
  constructor
  · intro h
    split at h
    next => cases h
    next hcorner =>
      split at h
      next => cases h
      next hgap =>
        split at h
        next =>
          obtain ⟨rfl, rfl⟩ := Prod.mk.inj (Option.some.inj h)
          simp only [slotRows, slotColumns, glyphColumns] at hgap ⊢
          omega
        next => cases h
  · rintro ⟨⟨hrow, hrow'⟩, hcol, hcol'⟩
    have hcorner : ¬ (p.column < box.column + 1 ∨ p.row < box.row + 1) := by omega
    have hplace : (p.row - (box.row + 1)) / (slotRows + 1) = line.val ∧
        (p.column - (box.column + 1)) / (slotColumns + 1) = column.val := by
      simp only [slotRows, slotColumns, glyphColumns] at *
      omega
    have hgap : ¬ ((p.column - (box.column + 1)) % (slotColumns + 1) = slotColumns ∨
        (p.row - (box.row + 1)) % (slotRows + 1) = slotRows) := by
      simp only [slotRows, slotColumns, glyphColumns] at *
      omega
    rw [if_neg hcorner, if_neg hgap, dif_pos (by rw [hplace.1, hplace.2]; exact ⟨hline, hcolumn⟩)]
    simp only [hplace]

/-! ## Slots -/

/-- What stands at a position of a slot in which a bitmap is drawn. -/
def slotCell (box : Position) (line column : Nat) (b : Option Bitmap) (selected : Bool)
    (p : Position) : Cell :=
  let origin := slotOrigin box line column
  let pixel (row : Nat) := ((b.getD Bitmap.blank).get? row (p.column - origin.column)).getD false
  let pair := p.row - origin.row
  ⟨halfBlock (pixel (2 * pair)) (pixel (2 * pair + 1)), ({} : Look).before (style selected)⟩

theorem getElem?_rowText (b : Bitmap) (pair column : Nat) :
    (rowText b pair).toList[column]? =
      if column < slotColumns then
        some (halfBlock ((b.get? (2 * pair) column).getD false)
          ((b.get? (2 * pair + 1) column).getD false))
      else none := by
  rw [rowText, String.toList_ofList, List.getElem?_map]
  split
  next hin =>
    have hsome : (List.range glyphColumns)[column]? = some column := List.getElem?_range hin
    rw [hsome, Option.map_some]
  next hin =>
    have hnone : (List.range glyphColumns)[column]? = none := by
      rw [List.getElem?_eq_none_iff, List.length_range]
      exact Nat.not_lt.mp hin
    rw [hnone, Option.map_none]

/-- A bitmap stands in its slot, as far as that is on the screen, and all else is left alone. -/
theorem cell_run_drawSlot (hs : s.look = {}) (line : Fin lcdLines) (column : Fin lcdColumns)
    (b : Option Bitmap) (selected : Bool) :
    (s.run (drawSlot box line column b selected)).cell p =
      if slotAt? box p = some (line, column) ∧ s.size.contains p then
        slotCell box line column b selected p
      else s.cell p := by
  refine (Screen.cell_run_lines hs (slotOrigin box line column) (style selected)
    (rowText (b.getD Bitmap.blank)) slotRows p).trans ?_
  rw [getElem?_rowText]
  by_cases hslot : slotAt? box p = some (line, column)
  · obtain ⟨hrow, hleft, hright⟩ := slotAt?_eq_some_iff.mp hslot
    rw [if_pos (Nat.sub_lt_left_of_lt_add hleft hright)]
    simp only [iff_true_intro hrow, iff_true_intro hleft, iff_true_intro hslot, true_and]
    rfl
  · refine Eq.trans ?_ (if_neg fun h => hslot h.1).symm
    split
    next h =>
      have hright : ¬ p.column - (slotOrigin box line column).column < slotColumns := by
        intro hlt
        have hbound : p.column < (slotOrigin box line column).column + slotColumns :=
          (Nat.sub_lt_iff_lt_add' h.2.1).mp hlt
        exact hslot (slotAt?_eq_some_iff.mpr ⟨h.1, h.2.1, hbound⟩)
      rw [if_neg hright]
    next => rfl

theorem stayPlain_drawSlot (box : Position) (line column : Nat) (b : Option Bitmap)
    (selected : Bool) : Screen.StayPlain (drawSlot box line column b selected) :=
  Screen.stayPlain_flatMap fun _ _ => Screen.stayPlain_of_isPlain (by simp [Command.isPlain])

section

variable (content : Fin lcdLines × Fin lcdColumns → Option Bitmap)
  (selected : Fin lcdLines × Fin lcdColumns → Bool)

/-- Draw a bitmap in each of some slots. -/
def drawSlots (box : Position) (slots : List (Fin lcdLines × Fin lcdColumns)) : List Command :=
  slots.flatMap fun q => drawSlot box q.1 q.2 (content q) (selected q)

theorem stayPlain_drawSlots (box : Position) (slots : List (Fin lcdLines × Fin lcdColumns)) :
    Screen.StayPlain (drawSlots content selected box slots) :=
  Screen.stayPlain_flatMap fun _ _ => stayPlain_drawSlot _ _ _ _ _

/-- A position that belongs to none of the slots, or is not on the screen, is left alone. -/
theorem cell_run_drawSlots_of_forall (hs : s.look = {})
    {slots : List (Fin lcdLines × Fin lcdColumns)}
    (hother : ∀ q ∈ slots, slotAt? box p = some q → s.size.contains p = false) :
    (s.run (drawSlots content selected box slots)).cell p = s.cell p := by
  induction slots generalizing s with
  | nil => rfl
  | cons r rest ih =>
    have hlook := stayPlain_drawSlot box r.1 r.2 (content r) (selected r) s hs
    have hsize := Screen.size_run s (drawSlot box r.1 r.2 (content r) (selected r))
    rw [drawSlots, List.flatMap_cons, Screen.run_append]
    refine (ih hlook ?_).trans ?_
    · intro q hq hat
      rw [hsize]
      exact hother q (List.mem_cons_of_mem r hq) hat
    · rw [cell_run_drawSlot hs, if_neg]
      rintro ⟨hat, hin⟩
      exact Bool.false_ne_true ((hother r List.mem_cons_self hat).symm.trans hin)

/-- A position of one of the slots shows the bitmap of that slot. So it does if it is drawn again
on a screen that shows it already. -/
theorem cell_run_drawSlots (hs : s.look = {}) {slots : List (Fin lcdLines × Fin lcdColumns)}
    {q : Fin lcdLines × Fin lcdColumns} (hat : slotAt? box p = some q)
    (hin : s.size.contains p = true)
    (hshown : q ∈ slots ∨ s.cell p = slotCell box q.1 q.2 (content q) (selected q) p) :
    (s.run (drawSlots content selected box slots)).cell p =
      slotCell box q.1 q.2 (content q) (selected q) p := by
  induction slots generalizing s with
  | nil => exact hshown.resolve_left List.not_mem_nil
  | cons r rest ih =>
    have hlook := stayPlain_drawSlot box r.1 r.2 (content r) (selected r) s hs
    have hsize := Screen.size_run s (drawSlot box r.1 r.2 (content r) (selected r))
    rw [drawSlots, List.flatMap_cons, Screen.run_append]
    rw [← hsize] at hin
    refine ih hlook hin ?_
    rw [hsize] at hin
    rw [cell_run_drawSlot hs, hat]
    rcases hshown with hmem | hshown
    · rcases List.mem_cons.mp hmem with rfl | hrest
      · exact .inr (if_pos ⟨rfl, hin⟩)
      · exact .inl hrest
    · right
      split
      next h => rw [Option.some.inj h.1]
      next => exact hshown

end

/-! ## The box -/

/-- The rows of a box. -/
def rows (box : Position) (row : Nat) : Prop := box.row ≤ row ∧ row < box.row + boxHeight

theorem stayPlain_drawBorder (box : Position) : Screen.StayPlain (drawBorder box) := by
  refine (Screen.stayPlain_of_isPlain ?_).append (Screen.stayPlain_flatMap fun _ _ =>
    Screen.stayPlain_of_isPlain ?_)
  all_goals simp [Command.isPlain]

section

variable (frame : Frame) (glyphs : GlyphTable) (highlight : Option (Nat × Nat))

theorem drawLcd_eq :
    drawLcd box frame glyphs highlight =
      drawBorder box ++
        drawSlots (fun q => glyphs.show? (frame.get q.1 q.2))
          (fun q => highlight = some (q.1.val, q.2.val)) box
          (Grid.positions lcdLines lcdColumns) := rfl

/-- The cursor is moved first. -/
theorem exists_drawLcd_eq :
    ∃ rest, drawLcd box frame glyphs highlight = .moveTo box.column box.row :: rest :=
  ⟨_, rfl⟩

theorem stayPlain_drawLcd : Screen.StayPlain (drawLcd box frame glyphs highlight) := by
  rw [drawLcd_eq]
  exact (stayPlain_drawBorder box).append (stayPlain_drawSlots _ _ _ _)

/-- A position of a slot shows the character of the frame. -/
theorem cell_run_drawLcd (hs : s.look = {}) {q : Fin lcdLines × Fin lcdColumns}
    (hat : slotAt? box p = some q) (hin : s.size.contains p = true) :
    (s.run (drawLcd box frame glyphs highlight)).cell p =
      slotCell box q.1 q.2 (glyphs.show? (frame.get q.1 q.2))
        (highlight = some (q.1.val, q.2.val)) p := by
  rw [← Screen.size_run s (drawBorder box)] at hin
  rw [drawLcd_eq, Screen.run_append]
  exact cell_run_drawSlots _ _ (stayPlain_drawBorder box s hs) hat hin
    (.inl (Grid.mem_positions q))

/-- Everywhere else there is what the border leaves. -/
theorem cell_run_drawLcd_of_forall (hs : s.look = {})
    (hother : ∀ q, slotAt? box p = some q → s.size.contains p = false) :
    (s.run (drawLcd box frame glyphs highlight)).cell p = (s.run (drawBorder box)).cell p := by
  rw [drawLcd_eq, Screen.run_append]
  refine cell_run_drawSlots_of_forall _ _ (stayPlain_drawBorder box s hs) fun q _ hat => ?_
  rw [Screen.size_run]
  exact hother q hat

/-- On a box that shows a frame, drawing the slots in which another frame differs leaves at every
position what drawing the other frame would. -/
theorem cell_run_changed {t : Screen} (prev next : Frame) (hsize : s.size = t.size)
    (hs : s.look = {}) (ht : t.look = {})
    (hshown : s.cell p = (t.run (drawLcd box prev glyphs none)).cell p) :
    (s.run (drawSlots (fun q => glyphs.show? (next.get q.1 q.2)) (fun _ => false) box
        (prev.changed next))).cell p =
      (t.run (drawLcd box next glyphs none)).cell p := by
  by_cases hslot : ∃ q, slotAt? box p = some q ∧ s.size.contains p = true
  · obtain ⟨q, hat, hin⟩ := hslot
    have hdrawn (frame : Frame) : (t.run (drawLcd box frame glyphs none)).cell p =
        slotCell box q.1 q.2 (glyphs.show? (frame.get q.1 q.2)) false p := by
      rw [hsize] at hin
      exact cell_run_drawLcd frame glyphs none ht hat hin
    rw [hdrawn] at hshown ⊢
    refine cell_run_drawSlots (fun q => glyphs.show? (next.get q.1 q.2)) _ hs hat hin ?_
    by_cases hsame : prev.get q.1 q.2 = next.get q.1 q.2
    · -- the slot is not drawn again, and shows the right character already
      rw [hsame] at hshown
      exact .inr hshown
    · exact .inl (Frame.mem_changed.mpr hsame)
  · have hother (q) (hat : slotAt? box p = some q) : s.size.contains p = false :=
      Bool.eq_false_iff.mpr fun hin => hslot ⟨q, hat, hin⟩
    rw [cell_run_drawSlots_of_forall _ _ hs fun q _ => hother q, hshown]
    rw [hsize] at hother
    rw [cell_run_drawLcd_of_forall _ _ _ ht hother, cell_run_drawLcd_of_forall _ _ _ ht hother]

end

/-! ## Where the box is drawn -/

/-- The rectangle of a box. -/
def area (box : Position) : Area := ⟨box, boxWidth, boxHeight⟩

theorem length_rowText (b : Bitmap) (pair : Nat) : (rowText b pair).length = slotColumns := by
  rw [rowText, String.length_ofList, List.length_map, List.length_range, slotColumns]

theorem length_border {width : Nat} (h : 2 ≤ width) (left right : Char) :
    (border width left right).length = width := by
  rw [border, String.length_ofList, List.length_append, List.length_cons, List.length_replicate,
    List.length_singleton]
  omega

theorem drawsIn_drawSlot (box : Position) (line : Fin lcdLines) (column : Fin lcdColumns)
    (b : Option Bitmap) (selected : Bool) :
    Screen.DrawsIn (area box) (drawSlot box line column b selected) := by
  have hline := line.isLt
  have hcolumn := column.isLt
  refine Screen.drawsIn_flatMap fun pair hpair => ?_
  have hpair := List.mem_range.mp hpair
  refine Screen.drawsIn_styled ?_ ?_ ?_ _
  · simp only [area, slotOrigin, boxHeight, lcdLines, slotRows] at hline hpair ⊢
    omega
  · simp only [area, slotOrigin]
    omega
  · simp only [area, slotOrigin, boxWidth, lcdColumns, length_rowText, slotColumns,
      glyphColumns] at hcolumn ⊢
    omega

/-- A slot is drawn on the positions at which it is found. -/
theorem mem_printed_drawSlot {cursor : Position} {line : Fin lcdLines} {column : Fin lcdColumns}
    {b : Option Bitmap} {selected : Bool} :
    p ∈ Screen.printed cursor (drawSlot box line column b selected) ↔
      slotAt? box p = some (line, column) := by
  rw [slotAt?_eq_some_iff, drawSlot,
    Screen.printed_flatMap fun _ _ => Screen.movesFirst_moveTo _ _ _]
  simp only [List.mem_flatMap, List.mem_range, Screen.printed, List.append_nil, Screen.mem_span,
    length_rowText]
  constructor
  · rintro ⟨pair, hpair, hrow, hcolumn⟩
    exact ⟨by omega, hcolumn⟩
  · rintro ⟨hrow, hcolumn⟩
    exact ⟨p.row - (slotOrigin box line column).row, by omega, by omega, hcolumn⟩

theorem drawsIn_drawBorder (box : Position) : Screen.DrawsIn (area box) (drawBorder box) := by
  have hwidth (left right : Char) : (border boxWidth left right).length = boxWidth :=
    length_border (by decide) left right
  have hedge (row : Nat) (left right : Char) (hrow : row < boxHeight) :
      Screen.DrawsIn (area box)
        [.moveTo box.column (box.row + row), .print (border boxWidth left right)] := by
    refine Screen.drawsIn_print ?_ (Nat.le_refl _) (by rw [hwidth]; exact Nat.le_refl _)
    exact ⟨Nat.le_add_right _ _, Nat.add_lt_add_left hrow _⟩
  have hside (column row : Nat) (hcolumn : column < boxWidth) (hrow : row < boxHeight) :
      Screen.DrawsIn (area box)
        [.moveTo (box.column + column) (box.row + row), .print "│"] := by
    refine Screen.drawsIn_print ?_ (Nat.le_add_right _ _) (Nat.add_lt_add_left hcolumn _)
    exact ⟨Nat.le_add_right _ _, Nat.add_lt_add_left hrow _⟩
  refine Screen.DrawsIn.append ?_ (Screen.drawsIn_flatMap fun i hi => ?_)
  · exact (hedge 0 '┌' '┐' (by decide)).append (hedge (boxHeight - 1) '└' '┘' (by decide))
  · have hrow : i + 1 < boxHeight := Nat.add_lt_of_lt_sub
      (Nat.lt_of_lt_of_le (List.mem_range.mp hi) (by decide))
    exact (hside 0 (i + 1) (by decide) hrow).append (hside (boxWidth - 1) (i + 1) (by decide) hrow)

section

variable {cursor : Position} (frame : Frame) (glyphs : GlyphTable) (highlight : Option (Nat × Nat))

/-- Drawing a frame keeps to the box. -/
theorem drawsIn_drawLcd (box : Position) :
    Screen.DrawsIn (area box) (drawLcd box frame glyphs highlight) :=
  (drawsIn_drawBorder box).append
    (Screen.drawsIn_flatMap fun q _ => drawsIn_drawSlot box q.1 q.2 _ _)

/-- Every frame is drawn on the same positions: those of the border and of all slots. -/
theorem mem_printed_drawLcd :
    p ∈ Screen.printed cursor (drawLcd box frame glyphs highlight) ↔
      p ∈ Screen.printed cursor (drawBorder box) ∨ ∃ q, slotAt? box p = some q := by
  have hmoves (q : Fin lcdLines × Fin lcdColumns) (b : Option Bitmap) (selected : Bool) :=
    (drawsIn_drawSlot box q.1 q.2 b selected).movesFirst
  rw [drawLcd, Screen.printed_append _ _ (Screen.movesFirst_flatMap fun q _ => hmoves q _ _),
    Screen.printed_flatMap fun q _ => hmoves q _ _, List.mem_append, List.mem_flatMap]
  simp only [mem_printed_drawSlot]
  refine or_congr_right ⟨?_, ?_⟩
  · rintro ⟨q, -, hq⟩
    exact ⟨q, hq⟩
  · rintro ⟨q, hq⟩
    exact ⟨q, Grid.mem_positions q, hq⟩

end

end CharLcd.LcdView
