import CharLcd.Lists
import CharLcd.Proofs.LcdView

/-!
# Coordinates of sixteen bits

A terminal counts columns and rows in sixteen bits. Here every sum, difference and product of
coordinates is taken only if it fits, so drawing with words gives something only if nothing
overflows on the way, not even where a later step would bring the value back.

- `Word.fit?`, `Word.add?`, `Word.sub?`, `Word.mul?`: arithmetic that gives nothing beyond sixteen
  bits and below zero.
- `Word.moveTo?`: moving the cursor; terminals count from one, so the next number must fit too.
- `LcdView.drawSlot?`, `LcdView.drawLcd?`: the LCD drawn with words; `drawLcd?_eq` says that it is
  the LCD as it is drawn, in every box whose far corner fits.
-/

namespace CharLcd

open Terminal

namespace Word

/-- A number that sixteen bits can hold. -/
def fit? (n : Nat) : Option Nat := if n < UInt16.size then some n else none

def add? (a b : Nat) : Option Nat := fit? (a + b)

def mul? (a b : Nat) : Option Nat := fit? (a * b)

def sub? (a b : Nat) : Option Nat := if b ≤ a then some (a - b) else none

/-- Move the cursor. -/
def moveTo? (column row : Nat) : Option Command := do
  let _ ← add? row 1
  let _ ← add? column 1
  return .moveTo column row

/-- Draw all items of a list. -/
def drawAll? {α : Type} (items : List α) (draw : α → Option (List Command)) :
    Option (List Command) :=
  (items.mapM draw).map List.flatten

section

variable {a b : Nat}

theorem fit?_eq (h : a < UInt16.size) : fit? a = some a := if_pos h

theorem add?_eq (h : a + b < UInt16.size) : add? a b = some (a + b) := fit?_eq h

theorem mul?_eq (h : a * b < UInt16.size) : mul? a b = some (a * b) := fit?_eq h

theorem sub?_eq (h : b ≤ a) : sub? a b = some (a - b) := if_pos h

theorem moveTo?_eq (hcolumn : a + 1 < UInt16.size) (hrow : b + 1 < UInt16.size) :
    moveTo? a b = some (.moveTo a b) := by
  rw [moveTo?, add?_eq hrow, add?_eq hcolumn]
  rfl

/-- If every item is drawn without overflow, so are all of them. -/
theorem drawAll?_eq {α : Type} {items : List α} {draw : α → Option (List Command)}
    {drawn : α → List Command} (h : ∀ x ∈ items, draw x = some (drawn x)) :
    drawAll? items draw = some (items.flatMap drawn) := by
  rw [drawAll?, mapM_eq_pure_map h, List.flatMap_def]
  rfl

end

end Word

open Word

namespace LcdView

/-- The top left corner of a slot. -/
def slotOrigin? (box : Position) (line column : Nat) : Option Position := do
  let x ← add? (← add? box.column 1) (← mul? (← fit? column) (← add? slotColumns 1))
  let y ← add? (← add? box.row 1) (← mul? (← fit? line) (← add? slotRows 1))
  return ⟨x, y⟩

/-- Draw a bitmap in a slot. -/
def drawSlot? (box : Position) (line column : Nat) (b : Option Bitmap) (selected : Bool) :
    Option (List Command) := do
  let origin ← slotOrigin? box line column
  drawAll? (List.range slotRows) fun pair => do
    let row ← add? origin.row (← fit? pair)
    return [← moveTo? origin.column row,
      .styled (style selected) (rowText (b.getD Bitmap.blank) pair)]

/-- Draw both sides of the border in one row. -/
def drawSides? (box : Position) (i : Nat) : Option (List Command) := do
  let row ← add? box.row (← add? i 1)
  let right ← sub? (← add? box.column boxWidth) 1
  return [← moveTo? box.column row, .print "│", ← moveTo? right row, .print "│"]

/-- Draw the border of a box. -/
def drawBorder? (box : Position) : Option (List Command) := do
  let last ← sub? (← add? box.row boxHeight) 1
  let edges := [
    ← moveTo? box.column box.row,
    .print (border boxWidth '┌' '┐'),
    ← moveTo? box.column last,
    .print (border boxWidth '└' '┘')]
  return edges ++ (← drawAll? (List.range (boxHeight - 2)) (drawSides? box))

/-- Draw a frame in a box. -/
def drawLcd? (box : Position) (frame : Frame) (glyphs : GlyphTable)
    (highlight : Option (Nat × Nat)) : Option (List Command) := do
  let edge ← drawBorder? box
  let slots ← drawAll? (Grid.positions lcdLines lcdColumns) fun p =>
    drawSlot? box p.1 p.2 (glyphs.show? (frame.get p.1 p.2))
      (highlight = some (p.1.val, p.2.val))
  return edge ++ slots

section

variable {box : Position} (hwidth : box.column + boxWidth < UInt16.size)
  (hheight : box.row + boxHeight < UInt16.size)

include hwidth hheight

/-- A slot begins so far inside its box that its own positions fit as well. -/
theorem slotOrigin?_eq {line column : Nat} (hline : line < lcdLines)
    (hcolumn : column < lcdColumns) :
    slotOrigin? box line column = some (slotOrigin box line column) ∧
      (slotOrigin box line column).column + slotColumns < UInt16.size ∧
      (slotOrigin box line column).row + slotRows < UInt16.size := by
  have hsize : UInt16.size = 65536 := rfl
  simp only [boxWidth, boxHeight, lcdLines, lcdColumns, slotColumns, slotRows,
    glyphColumns] at hwidth hheight hline hcolumn
  simp only [slotOrigin, slotColumns, slotRows, glyphColumns]
  refine ⟨?_, by omega, by omega⟩
  simp (disch := omega) only [slotOrigin?, slotColumns, slotRows, glyphColumns, fit?_eq, add?_eq,
    mul?_eq, Option.bind_eq_bind, Option.bind_some]
  rfl

theorem drawSlot?_eq (line : Fin lcdLines) (column : Fin lcdColumns) (b : Option Bitmap)
    (selected : Bool) :
    drawSlot? box line column b selected = some (drawSlot box line column b selected) := by
  obtain ⟨horigin, hcolumns, hrows⟩ := slotOrigin?_eq hwidth hheight line.isLt column.isLt
  rw [drawSlot?, horigin]
  refine drawAll?_eq fun pair hpair => ?_
  have hpair := List.mem_range.mp hpair
  simp only [slotRows, slotColumns, glyphColumns] at hpair hcolumns hrows
  simp (disch := omega) only [fit?_eq, add?_eq, moveTo?_eq, Option.bind_eq_bind, Option.bind_some]
  rfl

theorem drawSides?_eq {i : Nat} (hi : i < boxHeight - 2) :
    drawSides? box i = some [
      .moveTo box.column (box.row + (i + 1)), .print "│",
      .moveTo (box.column + boxWidth - 1) (box.row + (i + 1)), .print "│"] := by
  have hright : 0 < boxWidth := by decide
  simp (disch := omega) only [drawSides?, add?_eq, sub?_eq, moveTo?_eq, Option.bind_eq_bind,
    Option.bind_some]
  rfl

theorem drawBorder?_eq : drawBorder? box = some (drawBorder box) := by
  have hbottom : 0 < boxHeight := by decide
  have hright : 0 < boxWidth := by decide
  have hsides := drawAll?_eq fun i hi =>
    drawSides?_eq hwidth hheight (List.mem_range.mp hi)
  simp (disch := omega) only [drawBorder?, hsides, add?_eq, sub?_eq, moveTo?_eq,
    Option.bind_eq_bind, Option.bind_some]
  rfl

/-- Nothing overflows when a frame is drawn in a box whose far corner fits. -/
theorem drawLcd?_eq (frame : Frame) (glyphs : GlyphTable) (highlight : Option (Nat × Nat)) :
    drawLcd? box frame glyphs highlight = some (drawLcd box frame glyphs highlight) := by
  have hslots := drawAll?_eq fun (p : Fin lcdLines × Fin lcdColumns)
      (_ : p ∈ Grid.positions lcdLines lcdColumns) =>
    drawSlot?_eq hwidth hheight p.1 p.2 (glyphs.show? (frame.get p.1 p.2))
      (highlight = some (p.1.val, p.2.val))
  rw [drawLcd?, drawBorder?_eq hwidth hheight, hslots]
  rfl

end

end LcdView

end CharLcd
