import CharLcd.Proofs.LcdView
import CharLcd.Proofs.Scan
import CharLcd.Proofs.Terminal.Reading

/-!
# Reading the drawn LCD

The LCD on the terminal can be read back: its drawing prints to each position of the border and of
the slots once, and to no other, so what stands there is what was drawn. A character of a slot tells
two pixels, one above the other.

- `pixels?`, `pixel?`: the pixels that a character tells, and one that a screen shows in a slot.
- `borderChar?`: the border as a picture; `borderChar?_eq_some_iff` says that it is the one drawn.
- `slotArea`: the positions of a slot; `borderChar?_of_slotAt?` keeps them apart from the border.
- `nodup_printed_drawLcd`: no position is printed to twice.
- `ReadsAs`, `drawn_lcd_reads_back`: what can be read after drawing.
-/

namespace CharLcd.LcdView

open Terminal

variable {s : Screen} {box p : Position}

/-! ## Pixels -/

/-- The two pixels, one above the other, that a character tells. -/
def pixels? : Char → Option (Bool × Bool)
  | '█' => some (true, true)
  | '▀' => some (true, false)
  | '▄' => some (false, true)
  | ' ' => some (false, false)
  | _ => none

@[simp] theorem pixels?_halfBlock (top bottom : Bool) :
    pixels? (halfBlock top bottom) = some (top, bottom) := by
  cases top <;> cases bottom <;> rfl

/-- The position that shows a pixel of the slot that begins at `origin`. -/
def pixelPosition (origin : Position) (row column : Nat) : Position :=
  ⟨origin.column + column, origin.row + row / 2⟩

/-- The pixel that a screen shows in the slot that begins at `origin`: the upper one of its
character for even rows and the lower one for odd rows. -/
def pixel? (s : Screen) (origin : Position) (row column : Nat) : Option Bool :=
  (pixels? (s.cell (pixelPosition origin row column)).char).map fun pixels =>
    if row % 2 = 0 then pixels.1 else pixels.2

/-! ## The border -/

/-- The character of a horizontal border between two corners. -/
def edgeChar (box p : Position) (left right : Char) : Char :=
  if p.column = box.column then left
  else if p.column = box.column + (boxWidth - 1) then right
  else '─'

/-- The character of the border at a position, if the border goes through it. -/
def borderChar? (box p : Position) : Option Char :=
  if p.column < box.column ∨ box.column + boxWidth ≤ p.column then none
  else if p.row = box.row then some (edgeChar box p '┌' '┐')
  else if p.row = box.row + (boxHeight - 1) then some (edgeChar box p '└' '┘')
  else if (box.row < p.row ∧ p.row < box.row + (boxHeight - 1)) ∧
      (p.column = box.column ∨ p.column = box.column + (boxWidth - 1)) then some '│'
  else none

/-- The texts of the border: the upper and the lower edge, and the sides row by row. -/
def borderTexts (box : Position) : List (Position × String) :=
  [(box, border boxWidth '┌' '┐'),
   (⟨box.column, box.row + boxHeight - 1⟩, border boxWidth '└' '┘')] ++
  (List.range (boxHeight - 2)).flatMap fun i =>
    [(⟨box.column, box.row + (i + 1)⟩, "│"),
     (⟨box.column + boxWidth - 1, box.row + (i + 1)⟩, "│")]

theorem drawBorder_eq (box : Position) : drawBorder box = Screen.drawTexts (borderTexts box) := by
  rw [Screen.drawTexts, borderTexts, List.flatMap_append, List.flatMap_assoc]
  rfl

theorem getElem?_border {width : Nat} (h : 2 ≤ width) (left right : Char) (i : Nat) :
    (border width left right).toList[i]? =
      if i = 0 then some left else if i + 1 < width then some '─'
      else if i + 1 = width then some right else none := by
  rw [border, String.toList_ofList, List.cons_append]
  cases i with
  | zero => rfl
  | succ i =>
    rw [List.getElem?_cons_succ, List.getElem?_append, List.length_replicate,
      List.getElem?_replicate, List.getElem?_singleton]
    grind

theorem exists_mem_borderTexts {P : Position × String → Prop} :
    (∃ t ∈ borderTexts box, P t) ↔
      P (box, border boxWidth '┌' '┐') ∨
      P (⟨box.column, box.row + boxHeight - 1⟩, border boxWidth '└' '┘') ∨
      ∃ i < boxHeight - 2, P (⟨box.column, box.row + (i + 1)⟩, "│") ∨
        P (⟨box.column + boxWidth - 1, box.row + (i + 1)⟩, "│") := by
  simp [borderTexts, or_and_right, exists_or, and_or_left]

/-- What stands in a column of an edge. -/
theorem getElem?_edge {left right c : Char} :
    box.column ≤ p.column ∧
        (border boxWidth left right).toList[p.column - box.column]? = some c ↔
      ¬ (p.column < box.column ∨ box.column + boxWidth ≤ p.column) ∧
        edgeChar box p left right = c := by
  have hwidth : 2 ≤ boxWidth := by decide
  rw [getElem?_border hwidth, edgeChar]
  grind

/-- What stands in a column of a side. -/
theorem getElem?_side {column : Nat} {c : Char} :
    column ≤ p.column ∧ "│".toList[p.column - column]? = some c ↔
      p.column = column ∧ '│' = c := by
  show column ≤ p.column ∧ ['│'][p.column - column]? = some c ↔ _
  rw [List.getElem?_singleton]
  grind

/-- The border is the picture that its texts make up. -/
theorem borderChar?_eq_some_iff {c : Char} :
    borderChar? box p = some c ↔ ∃ t ∈ borderTexts box,
      p.row = t.1.row ∧ t.1.column ≤ p.column ∧ t.2.toList[p.column - t.1.column]? = some c := by
  have hheight : boxHeight = 11 := rfl
  have hwidth : boxWidth = 97 := rfl
  rw [exists_mem_borderTexts]
  simp only [getElem?_edge, getElem?_side]
  rw [borderChar?, hheight, hwidth]
  constructor
  · intro h
    split at h
    next => cases h
    next hinside =>
      split at h
      next hrow => exact .inl ⟨hrow, hinside, Option.some.inj h⟩
      next =>
        split at h
        next hrow => exact .inr (.inl ⟨hrow, hinside, Option.some.inj h⟩)
        next =>
          split at h
          next hside =>
            refine .inr (.inr ⟨p.row - (box.row + 1), by omega, ?_⟩)
            rcases hside.2 with hcolumn | hcolumn
            · exact .inl ⟨by omega, hcolumn, Option.some.inj h⟩
            · exact .inr ⟨by omega, hcolumn, Option.some.inj h⟩
          next => cases h
  · rintro (⟨hrow, hinside, rfl⟩ | ⟨hrow, hinside, rfl⟩ | ⟨i, hi, hside⟩)
    · rw [if_neg hinside, if_pos hrow]
    · rw [if_neg hinside, if_neg (by omega), if_pos (by omega)]
    · have hrow : p.row = box.row + (i + 1) := hside.elim (·.1) (·.1)
      have hcolumn : p.column = box.column ∨ p.column = box.column + 96 :=
        hside.imp (·.2.1) (·.2.1)
      have hchar : '│' = c := hside.elim (·.2.2) (·.2.2)
      rw [if_neg (by omega), if_neg (by omega), if_neg (by omega),
        if_pos ⟨by omega, hcolumn⟩, hchar]

/-- No two texts of the border share a position. -/
theorem pairwise_borderTexts (box : Position) : (borderTexts box).Pairwise fun t u =>
    (Screen.span t.1 t.2.length).Disjoint (Screen.span u.1 u.2.length) := by
  have hheight : boxHeight = 11 := rfl
  have hwidth : boxWidth = 97 := rfl
  have hside : "│".length = 1 := rfl
  rw [borderTexts, List.pairwise_append]
  refine ⟨List.pairwise_pair.mpr ?_, ?_, ?_⟩
  · exact Screen.disjoint_span_of_row_ne (by simp only; omega) _ _
  · rw [List.pairwise_flatMap]
    constructor
    · intro i _
      refine List.pairwise_pair.mpr (Screen.disjoint_span_of_le ?_ _)
      simp only [hside]
      omega
    · refine List.pairwise_lt_range.imp fun {i j} hlt t ht u hu => ?_
      have hrow : t.1.row = box.row + (i + 1) := by
        rcases List.mem_pair.mp ht with rfl | rfl <;> rfl
      have hrow' : u.1.row = box.row + (j + 1) := by
        rcases List.mem_pair.mp hu with rfl | rfl <;> rfl
      exact Screen.disjoint_span_of_row_ne (by omega) _ _
  · intro t ht u hu
    obtain ⟨i, hi, hu⟩ := List.mem_flatMap.mp hu
    have hi := List.mem_range.mp hi
    have hrow : t.1.row = box.row ∨ t.1.row = box.row + boxHeight - 1 := by
      rcases List.mem_pair.mp ht with rfl | rfl
      · exact .inl rfl
      · exact .inr rfl
    have hrow' : u.1.row = box.row + (i + 1) := by
      rcases List.mem_pair.mp hu with rfl | rfl <;> rfl
    exact Screen.disjoint_span_of_row_ne (by omega) _ _

theorem mem_printed_drawBorder {cursor : Position} :
    p ∈ Screen.printed cursor (drawBorder box) ↔ ∃ c, borderChar? box p = some c := by
  rw [drawBorder_eq, Screen.printed_drawTexts, List.mem_flatMap]
  simp only [borderChar?_eq_some_iff, Screen.mem_span]
  constructor
  · rintro ⟨t, ht, hrow, hleft, hright⟩
    have hlt : p.column - t.1.column < t.2.toList.length := by
      rw [String.length_toList]
      omega
    exact ⟨_, t, ht, hrow, hleft, List.getElem?_eq_getElem hlt⟩
  · rintro ⟨c, t, ht, hrow, hleft, hc⟩
    have hlt := (List.getElem?_eq_some_iff.mp hc).1
    rw [String.length_toList] at hlt
    exact ⟨t, ht, hrow, hleft, by omega⟩

theorem nodup_printed_drawBorder (box cursor : Position) :
    (Screen.printed cursor (drawBorder box)).Nodup := by
  rw [drawBorder_eq]
  exact Screen.nodup_printed_drawTexts (pairwise_borderTexts box) cursor

/-- The border stands where the picture says. -/
theorem cell_run_drawBorder (hs : s.look = {}) {c : Char} (hc : borderChar? box p = some c)
    (hin : s.size.contains p = true) : (s.run (drawBorder box)).cell p = ⟨c, {}⟩ := by
  obtain ⟨t, ht, hrow, hleft, hc⟩ := borderChar?_eq_some_iff.mp hc
  rw [drawBorder_eq]
  exact Screen.cell_run_drawTexts hs (pairwise_borderTexts box) ht hrow hleft hc hin

/-! ## Slots -/

/-- The positions of a slot. -/
def slotArea (box : Position) (line column : Nat) : Area :=
  ⟨slotOrigin box line column, slotColumns, slotRows⟩

/-- A slot is found at its positions. -/
theorem contains_slotArea_iff {line : Fin lcdLines} {column : Fin lcdColumns} :
    (slotArea box line column).Contains p ↔ slotAt? box p = some (line, column) :=
  slotAt?_eq_some_iff.symm

/-- The border does not go through the slots. -/
theorem borderChar?_of_slotAt? {q : Fin lcdLines × Fin lcdColumns}
    (h : slotAt? box p = some q) : borderChar? box p = none := by
  obtain ⟨⟨line, hline⟩, ⟨column, hcolumn⟩⟩ := q
  obtain ⟨hrow, hcolumn⟩ := slotAt?_eq_some_iff.mp h
  simp only [slotOrigin, slotRows, slotColumns, glyphColumns] at hrow hcolumn
  have hheight : boxHeight = 11 := rfl
  have hwidth : boxWidth = 97 := rfl
  have hlines : line < 2 := hline
  rw [borderChar?]
  grind

theorem nodup_printed_drawSlot (box cursor : Position) (line column : Nat) (b : Option Bitmap)
    (selected : Bool) :
    (Screen.printed cursor (drawSlot box line column b selected)).Nodup := by
  rw [drawSlot, Screen.printed_flatMap fun _ _ => Screen.movesFirst_moveTo _ _ _,
    List.nodup_flatMap]
  simp only [Screen.printed, List.append_nil]
  refine ⟨fun _ _ => Screen.nodup_span _ _, List.pairwise_lt_range.imp fun {i j} hlt => ?_⟩
  exact Screen.disjoint_span_of_row_ne (Nat.ne_of_lt (Nat.add_lt_add_left hlt _)) _ _

/-- A slot shows the pixels of the bitmap that is drawn in it. -/
theorem pixel?_of_cell {line : Fin lcdLines} {column : Fin lcdColumns} {b : Option Bitmap}
    {selected : Bool} (row : Fin glyphRows) (c : Fin glyphColumns)
    (hcell : (s.cell (pixelPosition (slotOrigin box line column) row c)).char =
      (slotCell box line column b selected
        (pixelPosition (slotOrigin box line column) row c)).char) :
    pixel? s (slotOrigin box line column) row c = some ((b.getD Bitmap.blank).get row c) := by
  have hcolumn : ∀ origin : Position,
      (pixelPosition origin row c).column - origin.column = c.val := fun _ =>
    Nat.add_sub_cancel_left ..
  have hrow : ∀ origin : Position,
      (pixelPosition origin row c).row - origin.row = row.val / 2 := fun _ =>
    Nat.add_sub_cancel_left ..
  rw [pixel?, hcell, slotCell]
  simp only [hcolumn, hrow, pixels?_halfBlock, Option.map_some]
  split
  next heven =>
    rw [show 2 * (row.val / 2) = row.val by omega, Grid.get?_fin]
    rfl
  next hodd =>
    rw [show 2 * (row.val / 2) + 1 = row.val by omega, Grid.get?_fin]
    rfl

/-- The pixels of a slot stand in the slot. -/
theorem slotAt?_pixelPosition (box : Position) (line : Fin lcdLines) (column : Fin lcdColumns)
    (row : Fin glyphRows) (c : Fin glyphColumns) :
    slotAt? box (pixelPosition (slotOrigin box line column) row c) = some (line, column) := by
  have hrow := row.isLt
  have hc := c.isLt
  refine slotAt?_eq_some_iff.mpr ?_
  simp only [pixelPosition, slotRows, slotColumns, glyphRows] at hrow ⊢
  omega

/-! ## The LCD -/

section

variable (frame : Frame) (glyphs : GlyphTable) (highlight : Option (Nat × Nat))

/-- No position is printed to twice. -/
theorem nodup_printed_drawLcd (box cursor : Position) :
    (Screen.printed cursor (drawLcd box frame glyphs highlight)).Nodup := by
  have hmoves (q : Fin lcdLines × Fin lcdColumns) (b : Option Bitmap) (selected : Bool) :=
    (drawsIn_drawSlot box q.1 q.2 b selected).movesFirst
  rw [drawLcd, Screen.printed_append _ _ (Screen.movesFirst_flatMap fun q _ => hmoves q _ _),
    Screen.printed_flatMap fun q _ => hmoves q _ _, List.nodup_append', List.nodup_flatMap]
  refine ⟨nodup_printed_drawBorder box cursor,
    ⟨fun _ _ => nodup_printed_drawSlot _ _ _ _ _ _, ?_⟩, ?_⟩
  · refine Grid.nodup_positions.imp fun {q r} hne p hq hr => hne ?_
    exact Option.some.inj ((mem_printed_drawSlot.mp hq).symm.trans (mem_printed_drawSlot.mp hr))
  · intro p hborder hslots
    obtain ⟨c, hc⟩ := mem_printed_drawBorder.mp hborder
    obtain ⟨q, -, hq⟩ := List.mem_flatMap.mp hslots
    rw [borderChar?_of_slotAt? (mem_printed_drawSlot.mp hq)] at hc
    cases hc

/-- What stands in the box on a screen with plain text. -/
theorem cell_run_drawLcd_border (hs : s.look = {}) {c : Char} (hc : borderChar? box p = some c)
    (hin : s.size.contains p = true) :
    (s.run (drawLcd box frame glyphs highlight)).cell p = ⟨c, {}⟩ := by
  refine (cell_run_drawLcd_of_forall frame glyphs highlight hs fun q hq => ?_).trans
    (cell_run_drawBorder hs hc hin)
  rw [borderChar?_of_slotAt? hq] at hc
  cases hc

/-- A slot on the screen shows the pixels of its character in the frame. -/
theorem pixel?_run_drawLcd {line : Fin lcdLines} {column : Fin lcdColumns} (row : Fin glyphRows)
    (c : Fin glyphColumns)
    (hin : s.size.contains (pixelPosition (slotOrigin box line column) row c) = true) :
    pixel? (s.run (drawLcd box frame glyphs highlight)) (slotOrigin box line column) row c =
      some (((glyphs.show? (frame.get line column)).getD Bitmap.blank).get row c) := by
  have hslot := slotAt?_pixelPosition box line column row c
  have hcell := cell_run_drawLcd frame glyphs highlight s.look_plain hslot hin
  exact pixel?_of_cell row c ((s.char_run_plain _ _).trans (congrArg Cell.char hcell))

/-- No position outside the border and the slots is changed. -/
theorem cell_run_drawLcd_outside (hborder : borderChar? box p = none)
    (hslots : slotAt? box p = none) :
    (s.run (drawLcd box frame glyphs highlight)).cell p = s.cell p := by
  refine (drawsIn_drawLcd frame glyphs highlight box).toDrawing.cell_run s.cursor fun hp => ?_
  rcases (mem_printed_drawLcd frame glyphs highlight).mp hp with hp | ⟨q, hq⟩
  · obtain ⟨c, hc⟩ := mem_printed_drawBorder.mp hp
    exact absurd (hborder.symm.trans hc) nofun
  · exact absurd (hslots.symm.trans hq) nofun

/-- On a screen with plain text, a position of the LCD is in reverse video if it belongs to the
slot that is pointed out. -/
theorem reverse_run_drawLcd (hs : s.look = {}) (hin : s.size.contains p = true)
    {q : Fin lcdLines × Fin lcdColumns} (hq : slotAt? box p = some q) :
    ((s.run (drawLcd box frame glyphs highlight)).cell p).look.reverse =
      decide (highlight = some (q.1.val, q.2.val)) := by
  rw [cell_run_drawLcd frame glyphs highlight hs hq hin, slotCell, Look.reverse_before]
  rfl

/-- The LCD in a box, read off a screen as far as it is visible, after it was drawn on another
one. -/
structure ReadsAs (before after : Screen) (box : Position) : Prop where
  /-- The pixels of a slot are those of its character, and off if it has none. -/
  pixels : ∀ (line : Fin lcdLines) (column : Fin lcdColumns) (row : Fin glyphRows)
    (c : Fin glyphColumns),
    after.size.contains (pixelPosition (slotOrigin box line column) row c) = true →
      pixel? after (slotOrigin box line column) row c =
        some (((glyphs.show? (frame.get line column)).getD Bitmap.blank).get row c)
  /-- The border has its characters. -/
  border : ∀ p c, borderChar? box p = some c → after.size.contains p = true →
    (after.cell p).char = c
  /-- The slot that is pointed out is in reverse video. -/
  pointedOut : ∀ (line : Fin lcdLines) (column : Fin lcdColumns) p,
    highlight = some (line.val, column.val) → (slotArea box line column).Contains p →
    after.size.contains p = true → (after.cell p).look.reverse = true
  /-- No other slot is, and the border is not, unless text was in reverse video before. -/
  others : before.look.reverse = false → ∀ p, after.size.contains p = true →
    (after.cell p).look.reverse = true →
    (∀ c, borderChar? box p ≠ some c) ∧
      ∀ (line : Fin lcdLines) (column : Fin lcdColumns),
        (slotArea box line column).Contains p → highlight = some (line.val, column.val)
  /-- Outside the border and the slots nothing is touched. -/
  untouched : ∀ p, borderChar? box p = none →
    (∀ (line : Fin lcdLines) (column : Fin lcdColumns),
      ¬ (slotArea box line column).Contains p) → after.cell p = before.cell p

theorem readsAs_drawLcd (s : Screen) (box : Position) :
    ReadsAs frame glyphs highlight s (s.run (drawLcd box frame glyphs highlight)) box where
  pixels line column row c hin := by
    rw [Screen.size_run] at hin
    exact pixel?_run_drawLcd frame glyphs highlight row c hin
  border p c hc hin := by
    rw [Screen.size_run] at hin
    rw [Screen.char_run_plain, cell_run_drawLcd_border frame glyphs highlight s.look_plain hc hin]
  pointedOut line column p hpoints hp hin := by
    rw [Screen.size_run] at hin
    refine Screen.reverse_run_of_plain ?_
    rw [reverse_run_drawLcd frame glyphs highlight s.look_plain hin (contains_slotArea_iff.mp hp)]
    exact decide_eq_true hpoints
  others hs p hin hreverse := by
    rw [Screen.size_run] at hin
    have hplain := Screen.reverse_plain_of_run hs hreverse
    constructor
    · intro c hc
      rw [cell_run_drawLcd_border frame glyphs highlight s.look_plain hc hin] at hplain
      exact Bool.false_ne_true hplain
    · intro line column hp
      have hselected := reverse_run_drawLcd frame glyphs highlight s.look_plain hin
        (contains_slotArea_iff.mp hp)
      exact of_decide_eq_true (hselected.symm.trans hplain)
  untouched p hborder hslots := by
    refine cell_run_drawLcd_outside frame glyphs highlight hborder ?_
    refine Option.eq_none_iff_forall_ne_some.mpr fun q hq => hslots q.1 q.2 ?_
    exact contains_slotArea_iff.mpr hq

/-- **The LCD can be read back.** What was drawn in a box is read off it afterwards, whatever stood
on the screen before: the border and the slots are printed to, each position once, and no other
position is. -/
theorem drawn_lcd_reads_back (s : Screen) (box : Position) :
    let commands := drawLcd box frame glyphs highlight
    ReadsAs frame glyphs highlight s (s.run commands) box ∧
      (Screen.printed s.cursor commands).Nodup ∧
      ∀ p, p ∈ Screen.printed s.cursor commands ↔
        (∃ c, borderChar? box p = some c) ∨
          ∃ (line : Fin lcdLines) (column : Fin lcdColumns),
            (slotArea box line column).Contains p := by
  refine ⟨readsAs_drawLcd frame glyphs highlight s box,
    nodup_printed_drawLcd frame glyphs highlight box s.cursor, fun p => ?_⟩
  rw [mem_printed_drawLcd, mem_printed_drawBorder, Prod.exists]
  simp only [contains_slotArea_iff]

/-- A diagonal in a slot that is pointed out, an index that no character has in the slot next to
it, and a gap between them. -/
theorem drawn_lcd_reads_back_diagonal :
    let diagonal : Bitmap := Grid.ofFn fun row column => row.val == column.val
    let frame := Frame.blank.writeAll [⟨1, 3, some 0⟩, ⟨1, 4, some 7⟩]
    let box : Position := ⟨30, 2⟩
    let after := (Screen.blank ⟨160, 50⟩).run (drawLcd box frame ⟨[diagonal]⟩ (some (1, 3)))
    (pixel? after (slotOrigin box 1 3) 4 4 = some true ∧
      pixel? after (slotOrigin box 1 3) 5 4 = some false ∧
      pixel? after (slotOrigin box 1 4) 4 4 = some false) ∧
    (after.cell ⟨30, 2⟩).char = '┌' ∧
    (after.cell ⟨49, 8⟩).look.reverse = true ∧
    (after.cell ⟨55, 8⟩).look.reverse = false ∧
    after.cell ⟨54, 8⟩ = {} := by
  intro diagonal frame box after
  have hreads : ReadsAs frame ⟨[diagonal]⟩ (some (1, 3)) (Screen.blank ⟨160, 50⟩) after box :=
    (drawn_lcd_reads_back frame ⟨[diagonal]⟩ (some (1, 3)) (Screen.blank ⟨160, 50⟩) box).1
  have hvisible {p : Position} (hp : (⟨160, 50⟩ : Size).contains p = true) :
      after.size.contains p = true := by
    rw [show after.size = ⟨160, 50⟩ from Screen.size_run _ _]
    exact hp
  refine ⟨⟨?_, ?_, ?_⟩, ?_, ?_, ?_, ?_⟩
  · exact (hreads.pixels ⟨1, by decide⟩ ⟨3, by decide⟩ ⟨4, by decide⟩ ⟨4, by decide⟩
      (hvisible (by decide))).trans (by decide)
  · exact (hreads.pixels ⟨1, by decide⟩ ⟨3, by decide⟩ ⟨5, by decide⟩ ⟨4, by decide⟩
      (hvisible (by decide))).trans (by decide)
  · exact (hreads.pixels ⟨1, by decide⟩ ⟨4, by decide⟩ ⟨4, by decide⟩ ⟨4, by decide⟩
      (hvisible (by decide))).trans (by decide)
  · exact hreads.border ⟨30, 2⟩ '┌' (by decide) (hvisible (by decide))
  · exact hreads.pointedOut ⟨1, by decide⟩ ⟨3, by decide⟩ ⟨49, 8⟩ rfl
      (contains_slotArea_iff.mpr (by decide)) (hvisible (by decide))
  · refine Bool.eq_false_iff.mpr fun hreverse => ?_
    have hothers := (hreads.others rfl ⟨55, 8⟩ (hvisible (by decide)) hreverse).2
    have hslot := hothers ⟨1, by decide⟩ ⟨4, by decide⟩ (contains_slotArea_iff.mpr (by decide))
    exact absurd hslot (by decide)
  · have hgap : slotAt? box ⟨54, 8⟩ = none := by decide
    refine hreads.untouched ⟨54, 8⟩ (by decide) fun line column hslot => ?_
    exact absurd (hgap.symm.trans (contains_slotArea_iff.mp hslot)) nofun

end

end CharLcd.LcdView
