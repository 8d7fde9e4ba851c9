import CharLcd.LcdView

/-!
# Where the panels of the editor stand

- `Layout.ofSize`: the places of all panels on a terminal.
- `Layout.pixelAt?`: the pixel of the magnified cell that is drawn at a position.
-/

namespace CharLcd

open LcdView Terminal

/-- Terminal columns of a magnified pixel. -/
def pixelWidth : Nat := 2

/-- Width of the magnified cell with its border. -/
def pixelBoxWidth : Nat := glyphColumns * pixelWidth + 2

/-- Height of the magnified cell with its border. -/
def pixelBoxHeight : Nat := glyphRows + 2

/-- Width of the options panel. -/
def optionsWidth : Nat := 34

/-- The sketch stands beside the LCD only if it gets this many columns. -/
def leastSketchWidth : Nat := 30

/-- The places of the panels. -/
structure Layout where
  termWidth : Nat
  /-- Height of the menu. -/
  menuHeight : Nat
  lcd : Position
  /-- The box of the magnified cell; its title stands one row higher. -/
  pixels : Position
  options : Position
  sketch : Position
  sketchWidth : Nat
  sketchHeight : Nat
  statusRow : Nat
  deriving DecidableEq, Repr

namespace Layout

/-- The places of the panels on a terminal. The sketch stands beside the LCD if
the terminal is wide enough, and otherwise below it, beside the options. -/
def ofSize (size : Size) : Layout :=
  let menuHeight := 1
  let pixels : Position := ⟨1, menuHeight + boxHeight + 2⟩
  let options : Position := ⟨pixelBoxWidth + 3, pixels.row - 1⟩
  let statusRow := size.height - 1
  let sketch : Position :=
    if boxWidth + 1 + leastSketchWidth ≤ size.width then ⟨boxWidth + 1, menuHeight⟩
    else ⟨options.column + optionsWidth + 1, options.row⟩
  { termWidth := size.width
    menuHeight
    lcd := ⟨0, menuHeight⟩
    pixels
    options
    sketch
    sketchWidth := size.width - sketch.column
    sketchHeight := statusRow - sketch.row
    statusRow }

/-- The pixel of the magnified cell that is drawn at a position, if one is. -/
def pixelAt? (l : Layout) (p : Position) : Option (Fin glyphRows × Fin glyphColumns) :=
  if p.column < l.pixels.column + 1 ∨ p.row < l.pixels.row + 1 then none
  else
    let row := p.row - (l.pixels.row + 1)
    let column := (p.column - (l.pixels.column + 1)) / pixelWidth
    if h : row < glyphRows ∧ column < glyphColumns then some (⟨row, h.1⟩, ⟨column, h.2⟩) else none

end Layout

end CharLcd
