import CharLcd.Proofs.Editor.Panels
import CharLcd.Proofs.Terminal.Word

/-!
# The screen of the editor in sixteen bits

The places of the panels and all positions on them are worked out in words of sixteen bits. On every
terminal whose size fits, nothing overflows and nothing goes below zero: the screen drawn with words
is the screen.

- `Layout.ofSize?`: the places of the panels in words; `Layout.ofSize?_eq`.
- `Editor.drawMenu?`, `drawPixels?`, `drawOptions?`, `drawSketch?`: the panels drawn with words. Each
  is the panel as it is drawn, if its far corner fits.
- `Editor.drawScreen?_eq`: so is the whole screen.
-/

namespace CharLcd

open LcdView Terminal Word

namespace Layout

/-- The places of the panels. Only the room that is left for the sketch may be less than nothing. -/
def ofSize? (size : Size) : Option Layout := do
  let menuHeight := 1
  let pixelRow ← add? (← add? menuHeight boxHeight) 2
  let optionsColumn ← add? pixelBoxWidth 3
  let optionsRow ← sub? pixelRow 1
  let statusRow := size.height - 1
  let side ← add? boxWidth 1
  let below ← add? (← add? optionsColumn optionsWidth) 1
  let wide ← add? side leastSketchWidth
  let sketch : Position := if wide ≤ size.width then ⟨side, menuHeight⟩ else ⟨below, optionsRow⟩
  return {
    termWidth := size.width
    menuHeight
    lcd := ⟨0, menuHeight⟩
    pixels := ⟨1, pixelRow⟩
    options := ⟨optionsColumn, optionsRow⟩
    sketch
    sketchWidth := size.width - sketch.column
    sketchHeight := statusRow - sketch.row
    statusRow }

theorem ofSize?_eq (size : Size) : ofSize? size = some (ofSize size) := rfl

end Layout

namespace Editor

/-- A text with an attribute, at a position. -/
def labelAt? (column row : Nat) (a : Attribute) (text : String) : Option (List Command) := do
  return (← moveTo? column row) :: (labelAt column row a text).tail

theorem labelAt?_eq {column row : Nat} (hcolumn : column + 1 < UInt16.size)
    (hrow : row + 1 < UInt16.size) (a : Attribute) (text : String) :
    labelAt? column row a text = some (labelAt column row a text) := by
  rw [labelAt?, moveTo?_eq hcolumn hrow]
  rfl

/-! ## Menu -/

/-- Print the items that fit, from column `x` on, each but the first after a separator. -/
def drawItems? (width : Nat) (first : Bool) (x : Nat) :
    List (String × Bool) → Option (List Command)
  | [] => some []
  | (item, active) :: rest => do
    let gap := if first then 0 else separator.length
    let columns ← fit? item.length
    let last ← add? (← add? x gap) columns
    if width < last then return []
    let next ← add? x (← add? gap columns)
    return (if first then [] else [.print separator]) ++ Menu.draw item active ++
      (← drawItems? width false next rest)

/-- The columns of the items of a menu, each with a separator. -/
def itemColumns : List (String × Bool) → Nat
  | [] => 0
  | (item, _) :: rest => separator.length + item.length + itemColumns rest

theorem drawItems?_eq {width x : Nat} {items : List (String × Bool)}
    (h : x + itemColumns items < UInt16.size) :
    drawItems? width false x items = some (drawItems width x items) := by
  induction items generalizing x with
  | nil => rfl
  | cons item rest ih =>
    rw [itemColumns] at h
    have hwidth : Menu.width item.1 = item.1.length := Nat.mod_eq_of_lt (by omega)
    have hrest := ih (x := x + (separator.length + item.1.length)) (by omega)
    rw [drawItems?, drawItems, hwidth]
    simp (disch := omega) only [fit?_eq, add?_eq, Option.bind_eq_bind, Option.bind_some,
      Bool.false_eq_true, if_false, hrest]
    split
    next => rfl
    next => simp [Nat.add_assoc]

section

variable (s : Editor) (l : Layout)

/-- Draw the menu, after a space. -/
def drawMenu? : Option (List Command) := do
  if l.menuHeight = 0 then return []
  return [← moveTo? 0 0, .clearLine, .print " "] ++ (← drawItems? l.termWidth true 1 s.menuItems)

theorem itemColumns_menuItems_lt : 1 + itemColumns s.menuItems < UInt16.size := by
  unfold menuItems
  split
  all_goals
    simp only [itemColumns]
    decide

theorem drawMenu?_eq : s.drawMenu? l = some (s.drawMenu l) := by
  have hcolumns := s.itemColumns_menuItems_lt
  have hhome : moveTo? 0 0 = some (.moveTo 0 0) := rfl
  rw [drawMenu?, drawMenu]
  split
  next => rfl
  next =>
    rw [hhome]
    -- the first item has no separator before it, so `drawItems?_eq` is about the others
    cases hitems : s.menuItems with
    | nil => rfl
    | cons item rest =>
      rw [hitems, itemColumns] at hcolumns
      have hwidth : Menu.width item.1 = item.1.length := Nat.mod_eq_of_lt (by omega)
      have hrest : drawItems? l.termWidth false (1 + item.1.length) rest =
          some (drawItems l.termWidth (1 + item.1.length) rest) := drawItems?_eq (by omega)
      simp (disch := omega) only [drawItems?, hwidth, fit?_eq, add?_eq, Option.bind_eq_bind,
        Option.bind_some, if_true, Nat.add_zero, Nat.zero_add, hrest]
      split
      next => rfl
      next => rfl

/-! ## LCD and pixels -/

/-- Draw the LCD. -/
def drawLcd? : Option (List Command) :=
  LcdView.drawLcd? l.lcd (s.session.compiled.frame s.playback.tick) s.session.compiled.glyphs
    (if s.playback.isPlaying then none else some (s.line.val, s.column.val))

/-- Draw a magnified pixel. -/
def drawPixel? (row : Fin glyphRows) (column : Fin glyphColumns) : Option (List Command) := do
  let x ← add? (← add? l.pixels.column 1) (← mul? (← fit? column.val) pixelWidth)
  let y ← add? (← add? l.pixels.row 1) (← fit? row.val)
  return (← moveTo? x y) :: (s.drawPixel l row column).tail

/-- Draw a row of magnified pixels between the sides of their box. -/
def drawPixelRow? (row : Fin glyphRows) : Option (List Command) := do
  let y ← add? (← add? l.pixels.row 1) (← fit? row.val)
  let right ← sub? (← add? l.pixels.column pixelBoxWidth) 1
  return [← moveTo? l.pixels.column y, .print "│"] ++
    (← drawAll? (List.finRange glyphColumns) (s.drawPixel? l row)) ++
    [← moveTo? right y, .print "│"]

/-- Draw the selected cell, magnified. -/
def drawPixels? : Option (List Command) := do
  let title ← labelAt? l.pixels.column (← sub? l.pixels.row 1) .bold s.pixelTitle
  let last ← sub? (← add? l.pixels.row pixelBoxHeight) 1
  let edges := [
    ← moveTo? l.pixels.column l.pixels.row,
    .print (border pixelBoxWidth '┌' '┐'),
    ← moveTo? l.pixels.column last,
    .print (border pixelBoxWidth '└' '┘')]
  let rows ← drawAll? (List.finRange glyphRows) (s.drawPixelRow? l)
  let count ← labelAt? l.pixels.column (← add? l.pixels.row pixelBoxHeight) .dim s.pixelCount
  return title ++ edges ++ rows ++ count

section

variable (hcolumn : l.pixels.column + pixelBoxWidth < UInt16.size)
  (hrow : l.pixels.row + pixelBoxHeight + 1 < UInt16.size)

include hcolumn hrow

theorem drawPixel?_eq (row : Fin glyphRows) (column : Fin glyphColumns) :
    s.drawPixel? l row column = some (s.drawPixel l row column) := by
  have hy : row.val + 2 ≤ pixelBoxHeight := Nat.add_le_add_right (Nat.le_of_lt row.isLt) 2
  have hx : column.val * pixelWidth + 2 ≤ pixelBoxWidth :=
    Nat.add_le_add_right (Nat.mul_le_mul_right _ (Nat.le_of_lt column.isLt)) 2
  have hsmall : column.val < UInt16.size := Nat.lt_trans column.isLt (by decide)
  simp (disch := omega) only [drawPixel?, fit?_eq, add?_eq, mul?_eq, moveTo?_eq,
    Option.bind_eq_bind, Option.bind_some]
  rfl

theorem drawPixelRow?_eq (row : Fin glyphRows) :
    s.drawPixelRow? l row = some (
      [.moveTo l.pixels.column (l.pixels.row + 1 + row.val), .print "│"] ++
      ((List.finRange glyphColumns).flatMap (s.drawPixel l row)) ++
      [.moveTo (l.pixels.column + pixelBoxWidth - 1) (l.pixels.row + 1 + row.val), .print "│"]) := by
  have hy : row.val + 2 ≤ pixelBoxHeight := Nat.add_le_add_right (Nat.le_of_lt row.isLt) 2
  have hright : 0 < pixelBoxWidth := by decide
  have hpixels := drawAll?_eq fun column (_ : column ∈ List.finRange glyphColumns) =>
    s.drawPixel?_eq l hcolumn hrow row column
  simp (disch := omega) only [drawPixelRow?, hpixels, fit?_eq, add?_eq, sub?_eq, moveTo?_eq,
    Option.bind_eq_bind, Option.bind_some]
  rfl

/-- The title takes the row above the box, which must be there. -/
theorem drawPixels?_eq (htitle : 1 ≤ l.pixels.row) :
    s.drawPixels? l = some (s.drawPixels l) := by
  have hheight : 0 < pixelBoxHeight := by decide
  have hwidth : 0 < pixelBoxWidth := by decide
  have hrows := drawAll?_eq fun row (_ : row ∈ List.finRange glyphRows) =>
    s.drawPixelRow?_eq l hcolumn hrow row
  simp (disch := omega) only [drawPixels?, hrows, labelAt?_eq, add?_eq, sub?_eq, moveTo?_eq,
    Option.bind_eq_bind, Option.bind_some]
  rfl

end

/-! ## Options -/

/-- Draw a row of the options. -/
def drawOptionRow? (option : (String × String) × Nat) : Option (List Command) := do
  let y ← add? (← add? l.options.row 2) (← fit? option.2)
  return [← moveTo? l.options.column y,
    .print (clip optionsWidth (padRight 18 option.1.1 ++ option.1.2))]

/-- Draw an answer to the open question. -/
def drawAnswer? (i : Nat) (label : String) (marked : Bool) : Option (List Command) := do
  let y ← add? (← add? l.options.row 4) (← fit? i)
  return (← moveTo? l.options.column y) :: (drawAnswer l.options.column y label marked).tail

/-- Draw the options panel, or the question that is open in its place. -/
def drawOptions? : Option (List Command) :=
  match s.mode with
  | .normal => do
    let title ← labelAt? l.options.column l.options.row .bold "Options"
    return title ++ (← drawAll? s.optionRows.zipIdx (drawOptionRow? l))
  | .asking q yes => do
    let title ← labelAt? l.options.column l.options.row .bold "Confirm"
    let message ← labelAt? l.options.column (← add? l.options.row 2) .dim
      (clip optionsWidth q.message)
    return title ++ message ++ (← drawAnswer? l 0 "Yes" yes) ++ (← drawAnswer? l 1 "No" !yes)

section

variable (hcolumn : l.options.column + 1 < UInt16.size) (hrow : l.options.row + 10 < UInt16.size)

include hcolumn hrow

theorem drawOptionRow?_eq {option : (String × String) × Nat} (hi : option.2 < 8) :
    drawOptionRow? l option = some [.moveTo l.options.column (l.options.row + 2 + option.2),
      .print (clip optionsWidth (padRight 18 option.1.1 ++ option.1.2))] := by
  simp (disch := omega) only [drawOptionRow?, fit?_eq, add?_eq, moveTo?_eq, Option.bind_eq_bind,
    Option.bind_some]
  rfl

theorem drawAnswer?_eq {i : Nat} (hi : i < 2) (label : String) (marked : Bool) :
    drawAnswer? l i label marked =
      some (drawAnswer l.options.column (l.options.row + 4 + i) label marked) := by
  simp (disch := omega) only [drawAnswer?, fit?_eq, add?_eq, moveTo?_eq, Option.bind_eq_bind,
    Option.bind_some]
  rfl

theorem drawOptions?_eq : s.drawOptions? l = some (s.drawOptions l) := by
  rw [drawOptions?, drawOptions]
  cases s.mode with
  | normal =>
    have hrows := drawAll?_eq fun option (hoption : option ∈ s.optionRows.zipIdx) =>
      drawOptionRow?_eq l hcolumn hrow (List.snd_lt_of_mem_zipIdx hoption)
    simp (disch := omega) only [hrows, labelAt?_eq, Option.bind_eq_bind, Option.bind_some]
    rfl
  | asking q yes =>
    have hyes := drawAnswer?_eq l hcolumn hrow (i := 0) (by decide) "Yes" yes
    have hno := drawAnswer?_eq l hcolumn hrow (i := 1) (by decide) "No" !yes
    simp (disch := omega) only [hyes, hno, labelAt?_eq, add?_eq, Option.bind_eq_bind,
      Option.bind_some]
    rfl

end

/-! ## Sketch and status -/

/-- Draw the side of the sketch in one of its rows. -/
def drawSketchSide? (row : Nat) : Option (List Command) := do
  return [← moveTo? l.sketch.column (← add? l.sketch.row row), .print "│"]

/-- Draw a line of the sketch. -/
def drawSketchLine? (width : Nat) (line : String × Nat) : Option (List Command) := do
  let row ← add? (← add? l.sketch.row 2) (← fit? line.2)
  return [← moveTo? (← add? l.sketch.column 2) row, .print (clip width line.1)]

/-- Draw the sketch, if its panel is large enough. -/
def drawSketch? : Option (List Command) := do
  if l.sketchWidth < 4 ∨ l.sketchHeight < 3 then return []
  let width ← sub? l.sketchWidth 2
  let visible ← sub? l.sketchHeight 2
  let title ← labelAt? (← add? l.sketch.column 2) l.sketch.row .bold s.sketchTitle
  let side ← drawAll? (List.range l.sketchHeight) (drawSketchSide? l)
  let shown := (s.session.compiled.codeLines.drop s.sketchScroll).take visible
  return title ++ side ++ (← drawAll? shown.zipIdx (drawSketchLine? l width))

section

variable (hcolumn : l.sketch.column + 3 < UInt16.size)
  (hrow : l.sketch.row + l.sketchHeight < UInt16.size)

include hcolumn hrow

theorem drawSketchSide?_eq {row : Nat} (hlt : row < l.sketchHeight) :
    drawSketchSide? l row = some [.moveTo l.sketch.column (l.sketch.row + row), .print "│"] := by
  simp (disch := omega) only [drawSketchSide?, add?_eq, moveTo?_eq, Option.bind_eq_bind,
    Option.bind_some]
  rfl

theorem drawSketchLine?_eq (width : Nat) {line : String × Nat} (hi : line.2 + 2 < l.sketchHeight) :
    drawSketchLine? l width line = some [
      .moveTo (l.sketch.column + 2) (l.sketch.row + 2 + line.2), .print (clip width line.1)] := by
  simp (disch := omega) only [drawSketchLine?, fit?_eq, add?_eq, moveTo?_eq, Option.bind_eq_bind,
    Option.bind_some]
  rfl

theorem drawSketch?_eq : s.drawSketch? l = some (s.drawSketch l) := by
  rw [drawSketch?, drawSketch]
  split
  next => rfl
  next hroom =>
    rw [not_or, Nat.not_lt, Nat.not_lt] at hroom
    have hside := drawAll?_eq fun row (hmem : row ∈ List.range l.sketchHeight) =>
      drawSketchSide?_eq l hcolumn hrow (List.mem_range.mp hmem)
    have hvisible : ∀ line ∈ ((s.session.compiled.codeLines.drop s.sketchScroll).take
        (l.sketchHeight - 2)).zipIdx, line.2 + 2 < l.sketchHeight := by
      intro line hmem
      have hlt := List.snd_lt_of_mem_zipIdx hmem
      rw [List.length_take] at hlt
      omega
    have hlines := drawAll?_eq fun line hmem =>
      drawSketchLine?_eq l hcolumn hrow (l.sketchWidth - 2) (hvisible line hmem)
    simp (disch := omega) only [hside, hlines, labelAt?_eq, add?_eq, sub?_eq,
      Option.bind_eq_bind, Option.bind_some]
    rfl

end

/-- Draw the status line. -/
def drawStatus? : Option (List Command) := do
  return (← moveTo? 0 l.statusRow) :: (s.drawStatus l).tail

theorem drawStatus?_eq (hrow : l.statusRow + 1 < UInt16.size) :
    s.drawStatus? l = some (s.drawStatus l) := by
  rw [drawStatus?, moveTo?_eq (by decide) hrow]
  rfl

end

/-! ## The whole screen -/

/-- Clear the screen and draw all panels. -/
def drawScreen? (s : Editor) (size : Size) : Option (List Command) := do
  let l ← Layout.ofSize? size
  return .clearScreen :: (← s.drawMenu? l) ++ (← s.drawLcd? l) ++ (← s.drawPixels? l) ++
    (← s.drawOptions? l) ++ (← s.drawSketch? l) ++ (← s.drawStatus? l)

/-- Nothing overflows when the screen is drawn on a terminal whose rows fit. Its columns need not:
all panels begin within the first hundred. -/
theorem drawScreen?_eq (s : Editor) {size : Size} (hheight : size.height < UInt16.size) :
    s.drawScreen? size = some (s.drawScreen size) := by
  have hsize : UInt16.size = 65536 := rfl
  have hlcd : s.drawLcd? (Layout.ofSize size) = some (s.drawLcd (Layout.ofSize size)) :=
    LcdView.drawLcd?_eq (show 0 + boxWidth < UInt16.size by decide)
      (show 1 + boxHeight < UInt16.size by decide) _ _ _
  have hpixels := s.drawPixels?_eq (Layout.ofSize size)
    (show 1 + pixelBoxWidth < UInt16.size by decide)
    (show 14 + pixelBoxHeight + 1 < UInt16.size by decide) (show 1 ≤ 14 by decide)
  have hoptions := s.drawOptions?_eq (Layout.ofSize size) (show 15 + 1 < UInt16.size by decide)
    (show 13 + 10 < UInt16.size by decide)
  -- the size of the terminal decides where the sketch and the status line stand, and nothing else
  have hsketch : s.drawSketch? (Layout.ofSize size) = some (s.drawSketch (Layout.ofSize size)) := by
    have hrows : (Layout.ofSize size).sketchHeight =
        size.height - 1 - (Layout.ofSize size).sketch.row := rfl
    refine s.drawSketch?_eq _ ?_ ?_
    all_goals
      rcases Layout.sketch_ofSize size with ⟨hsketch, -⟩ | ⟨hsketch, -⟩
      all_goals
        simp only [hrows, hsketch]
        omega
  have hstatus : s.drawStatus? (Layout.ofSize size) = some (s.drawStatus (Layout.ofSize size)) :=
    s.drawStatus?_eq _ (show size.height - 1 + 1 < UInt16.size by omega)
  rw [drawScreen?, Layout.ofSize?_eq]
  simp only [s.drawMenu?_eq, hlcd, hpixels, hoptions, hsketch, hstatus, Option.bind_eq_bind,
    Option.bind_some]
  rfl

end Editor

end CharLcd
