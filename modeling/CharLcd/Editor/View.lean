import CharLcd.Editor.Layout
import CharLcd.Editor.State
import CharLcd.Menu

/-!
# The screen of the editor

- `Editor.drawMenu`, `drawLcd`, `drawPixels`, `drawOptions`, `drawSketch`,
  `drawStatus`: the panels.
- `Editor.drawScreen`: the whole screen, cleared and drawn anew.
- `Editor.drawTick`: the panels that show a tick of the preview.
-/

namespace CharLcd.Editor

open LcdView Terminal

/-- A text filled up with spaces to a width, on the left. -/
def padLeft (width : Nat) (s : String) : String :=
  String.ofList (s.toList.leftpad width ' ')

/-- A text filled up with spaces to a width, on the right. -/
def padRight (width : Nat) (s : String) : String :=
  String.ofList (s.toList.rightpad width ' ')

/-- The first characters of a text. -/
def clip (width : Nat) (s : String) : String :=
  String.ofList (s.toList.take width)

/-- A text with an attribute, at a position. -/
def labelAt (column row : Nat) (a : Attribute) (text : String) : List Command :=
  [.moveTo column row, .set a, .print text, .reset]

/-! ## Menu -/

/-- The items of the menu, and whether each is a switch that is on. -/
def menuItems (s : Editor) : List (String × Bool) :=
  match s.mode with
  | .normal => [
    ("[←→↑↓] pixel", false),
    ("[Space] toggle", false),
    ("[Tab][Alt+←→↑↓] cell", false),
    ("[c]lear", false),
    ("[y]ank", false),
    ("[p]aste", s.session.clipboard.isSome),
    ("[R]eset", false),
    ("[Enter] play", s.playback.isPlaying),
    ("[Ctrl-s]ave", false),
    ("[e]xport", false),
    ("[q]uit", false)]
  | .asking _ _ => [("[↑][↓] select", false), ("[Enter] confirm", false), ("[Esc] cancel", false)]

/-- The text between two items. -/
def separator : String := "  "

/-- Print the items that fit, each after a separator, from column `x` on. The
first that does not fit ends the menu. -/
def drawItems (width x : Nat) : List (String × Bool) → List Command
  | [] => []
  | (item, active) :: rest =>
    let x := x + separator.length + Menu.width item
    if width < x then []
    else .print separator :: Menu.draw item active ++ drawItems width x rest

/-- Draw the menu, after a space. -/
def drawMenu (s : Editor) (l : Layout) : List Command :=
  if l.menuHeight = 0 then []
  else
    [.moveTo 0 0, .clearLine, .print " "] ++
    (match s.menuItems with
      | [] => []
      | (item, active) :: rest =>
        let x := 1 + Menu.width item
        if l.termWidth < x then []
        else Menu.draw item active ++ drawItems l.termWidth x rest)

/-! ## LCD and pixels -/

/-- Draw the LCD. While the preview plays no cell is pointed out. -/
def drawLcd (s : Editor) (l : Layout) : List Command :=
  LcdView.drawLcd l.lcd (s.session.compiled.frame s.playback.tick) s.session.compiled.glyphs
    (if s.playback.isPlaying then none else some (s.line.val, s.column.val))

/-- Draw a magnified pixel. -/
def drawPixel (s : Editor) (l : Layout) (row : Fin glyphRows) (column : Fin glyphColumns) :
    List Command :=
  let on := s.currentCell.get row column
  let reverse := s.pixelRow = row && s.pixelColumn = column
  let style : Style :=
    if on then { foreground := some .white, reverse } else { dim := true, reverse }
  [.moveTo (l.pixels.column + 1 + column * pixelWidth) (l.pixels.row + 1 + row),
   .styled style (if on then "██" else "· ")]

/-- Draw the selected cell, magnified. -/
def drawPixels (s : Editor) (l : Layout) : List Command :=
  let x := l.pixels.column
  let y := l.pixels.row
  labelAt x (y - 1) .bold
    ("Cell (" ++ toString s.line.val ++ ", " ++ padLeft 2 (toString s.column.val) ++ ")") ++
  [.moveTo x y,
   .print (border pixelBoxWidth '┌' '┐'),
   .moveTo x (y + pixelBoxHeight - 1),
   .print (border pixelBoxWidth '└' '┘')] ++
  ((List.finRange glyphRows).flatMap fun row =>
    [.moveTo x (y + 1 + row.val), .print "│"] ++
    ((List.finRange glyphColumns).flatMap (s.drawPixel l row)) ++
    [.moveTo (x + pixelBoxWidth - 1) (y + 1 + row.val), .print "│"]) ++
  labelAt x (y + pixelBoxHeight) .dim
    ("Active: " ++ padLeft 2 (toString s.currentCell.activeCount))

/-! ## Options -/

/-- A switch in words. -/
def onOff (b : Bool) : String := if b then "on" else "off"

/-- The rows of the options panel: labels and values. -/
def optionRows (s : Editor) : List (String × String) :=
  let o := s.session.options
  let interval := toString o.intervalMs.toNat ++ " ms"
  [ ("[t] Connection",
      match o.transmission with
      | .parallel => "Parallel"
      | .i2c => "I2C"),
    ("[f] Format",
      match o.numberFormat with
      | .hex => "Hex"
      | .binary => "Binary"),
    ("[s] Scrolling", onOff o.scrolling),
    ("[b] Buffered", onOff o.buffered),
    ("[d] Direction",
      match o.direction with
      | .left => "Left"
      | .right => "Right"),
    ("[-][+] Interval",
      if o.scrolling && !o.buffered then
        interval ++ " (naive: " ++ toString naiveIntervalMs.toNat ++ ")"
      else interval),
    ("Glyphs", toString s.session.compiled.glyphs.size),
    ("[Enter] Preview",
      if s.playback.isPlaying then "tick " ++ toString s.playback.tick else "stopped")]

/-- Draw the options. -/
def drawOptionRows (s : Editor) (l : Layout) : List Command :=
  labelAt l.options.column l.options.row .bold "Options" ++
  s.optionRows.zipIdx.flatMap fun ((label, value), i) =>
    [.moveTo l.options.column (l.options.row + 2 + i),
     .print (clip optionsWidth (padRight 18 label ++ value))]

/-- Draw an answer to the open question. -/
def drawAnswer (column row : Nat) (label : String) (marked : Bool) : List Command :=
  .moveTo column row ::
    (if marked then [.set .reverse, .print ("> " ++ padRight 6 label), .reset]
    else [.print ("  " ++ padRight 6 label)])

/-- Draw a question. -/
def drawQuestion (l : Layout) (q : Question) (yes : Bool) : List Command :=
  labelAt l.options.column l.options.row .bold "Confirm" ++
  labelAt l.options.column (l.options.row + 2) .dim (clip optionsWidth q.message) ++
  drawAnswer l.options.column (l.options.row + 4) "Yes" yes ++
  drawAnswer l.options.column (l.options.row + 5) "No" !yes

/-- Draw the options panel, or the question that is open in its place. -/
def drawOptions (s : Editor) (l : Layout) : List Command :=
  match s.mode with
  | .normal => s.drawOptionRows l
  | .asking q yes => drawQuestion l q yes

/-! ## Sketch and status -/

/-- Draw the sketch, if its panel is large enough. -/
def drawSketch (s : Editor) (l : Layout) : List Command :=
  if l.sketchWidth < 4 ∨ l.sketchHeight < 3 then []
  else
    let x := l.sketch.column
    let y := l.sketch.row
    let shown := (s.session.compiled.codeLines.drop s.sketchScroll).take (l.sketchHeight - 2)
    labelAt (x + 2) y .bold ("Sketch (" ++ toString s.sketchLines ++ " lines)") ++
    ((List.range l.sketchHeight).flatMap fun row => [.moveTo x (y + row), .print "│"]) ++
    shown.zipIdx.flatMap fun (line, i) =>
      [.moveTo (x + 2) (y + 2 + i), .print (clip (l.sketchWidth - 2) line)]

/-- The mode in one word. -/
def modeName (s : Editor) : String :=
  match s.mode with
  | .normal => if s.playback.isPlaying then "PREVIEW" else "EDIT"
  | .asking _ _ => "CONFIRM"

/-- The message of the status line; it stays on one line. -/
def message (s : Editor) : String :=
  String.ofList ((s.status.getD "").toList.map fun c => if c = '\n' then '↵' else c)

/-- Draw the status line. -/
def drawStatus (s : Editor) (l : Layout) : List Command :=
  [.moveTo 0 l.statusRow,
   .clearLine,
   .set .dim,
   .print (" " ++ s.modeName ++ " | " ++ s.path ++ (if s.dirty then " [modified]" else "") ++ " " ++
     s.message),
   .reset]

/-! ## The whole screen -/

/-- Clear the screen and draw all panels. -/
def drawScreen (s : Editor) (size : Size) : List Command :=
  let l := Layout.ofSize size
  .clearScreen :: s.drawMenu l ++ s.drawLcd l ++ s.drawPixels l ++ s.drawOptions l ++
    s.drawSketch l ++ s.drawStatus l

/-- Draw the panels that show a tick of the preview. -/
def drawTick (s : Editor) (size : Size) : List Command :=
  let l := Layout.ofSize size
  s.drawLcd l ++ s.drawOptions l

end CharLcd.Editor
