import CharLcd.Frame
import CharLcd.Terminal.Command
import CharLcd.Terminal.Position

/-!
# The LCD on the terminal

The simulated LCD is a box in which every slot takes five columns and four rows
of the terminal, two pixel rows in each; gaps of one column and one row keep the
slots apart.

- `halfBlock`: the character of two pixels, one above the other.
- `slotOrigin`, `slotAt?`: where a slot is drawn, and which slot is drawn at a
  position.
- `drawSlot`, `drawLcd`: the commands that draw a slot and the whole LCD.
-/

namespace CharLcd.LcdView

open Terminal

/-- Terminal rows of a slot. -/
def slotRows : Nat := 4

/-- Terminal columns of a slot. -/
def slotColumns : Nat := glyphColumns

/-- Width of the box with its border. -/
def boxWidth : Nat := lcdColumns * (slotColumns + 1) + 1

/-- Height of the box with its border. -/
def boxHeight : Nat := lcdLines * (slotRows + 1) + 1

/-- The character that shows two pixels, one above the other. -/
def halfBlock (top bottom : Bool) : Char :=
  match top, bottom with
  | true, true => '█'
  | true, false => '▀'
  | false, true => '▄'
  | false, false => ' '

/-! ## Positions -/

/-- The top left corner of a slot in a box at `box`. -/
def slotOrigin (box : Position) (line column : Nat) : Position :=
  { column := box.column + 1 + column * (slotColumns + 1)
    row := box.row + 1 + line * (slotRows + 1) }

/-- The slot drawn at a position, if one is. -/
def slotAt? (box p : Position) : Option (Fin lcdLines × Fin lcdColumns) :=
  if p.column < box.column + 1 ∨ p.row < box.row + 1 then none
  else
    let dx := p.column - (box.column + 1)
    let dy := p.row - (box.row + 1)
    let column := dx / (slotColumns + 1)
    let line := dy / (slotRows + 1)
    if dx % (slotColumns + 1) = slotColumns ∨ dy % (slotRows + 1) = slotRows then none
    else if h : line < lcdLines ∧ column < lcdColumns then some (⟨line, h.1⟩, ⟨column, h.2⟩)
    else none

/-! ## Drawing -/

/-- White on dark blue, reversed for a slot that is pointed out. -/
def style (selected : Bool) : Style :=
  { background := some .darkBlue, foreground := some .white, reverse := selected }

/-- The characters of one terminal row of a bitmap, which shows two pixel rows. -/
def rowText (b : Bitmap) (pair : Nat) : String :=
  String.ofList ((List.range glyphColumns).map fun column =>
    halfBlock ((b.get? (2 * pair) column).getD false) ((b.get? (2 * pair + 1) column).getD false))

/-- Draw a bitmap in a slot of a box; no bitmap is drawn as a blank one. -/
def drawSlot (box : Position) (line column : Nat) (b : Option Bitmap) (selected : Bool) :
    List Command :=
  let origin := slotOrigin box line column
  (List.range slotRows).flatMap fun pair =>
    [.moveTo origin.column (origin.row + pair),
     .styled (style selected) (rowText (b.getD Bitmap.blank) pair)]

/-- The middle of a horizontal border between two corners. -/
def border (width : Nat) (left right : Char) : String :=
  String.ofList (left :: List.replicate (width - 2) '─' ++ [right])

/-- Draw the border of a box. -/
def drawBorder (box : Position) : List Command :=
  [.moveTo box.column box.row,
   .print (border boxWidth '┌' '┐'),
   .moveTo box.column (box.row + boxHeight - 1),
   .print (border boxWidth '└' '┘')] ++
  (List.range (boxHeight - 2)).flatMap fun i =>
    [.moveTo box.column (box.row + (i + 1)),
     .print "│",
     .moveTo (box.column + boxWidth - 1) (box.row + (i + 1)),
     .print "│"]

/-- Draw a frame in a box. One slot may be pointed out. -/
def drawLcd (box : Position) (frame : Frame) (glyphs : GlyphTable)
    (highlight : Option (Nat × Nat)) : List Command :=
  drawBorder box ++
  (Grid.positions lcdLines lcdColumns).flatMap fun p =>
    drawSlot box p.1 p.2 (glyphs.show? (frame.get p.1 p.2)) (highlight = some (p.1.val, p.2.val))

end CharLcd.LcdView
