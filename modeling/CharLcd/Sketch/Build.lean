import CharLcd.Sketch.Syntax
import CharLcd.Plan
import CharLcd.RowByte

/-!
# Building the sketch

The sketch of a table of characters and a redraw plan: the connection, the
scroll helpers of an animated plan, `setup` with the characters, and the `loop`
of the plan.

- `Program.build`: the whole sketch.
- `connection`, `scrollItems`, `setupBody`, `loopBody`: its parts.
-/

namespace CharLcd.Sketch

/-- The libraries and the LCD object. -/
def connection : Transmission → List Item
  | .i2c => [
      .comment "I2C Connection",
      .header "Wire.h",
      .header "LiquidCrystal_I2C.h",
      .blank,
      .comment "Set the LCD address to 0x27 for a 16 chars and 2 line display",
      .object "LiquidCrystal_I2C" "lcd" [.byte .hex 0x27, .number 16, .number 2],
      .blank]
  | .parallel => [
      .comment "Basic Connection",
      .header "LiquidCrystal.h",
      .blank,
      .comment "Initialize the library with the interface pins",
      .comment "RS, Enable, D4, D5, D6, D7 pins",
      .object "LiquidCrystal" "lcd" ([12, 11, 5, 4, 3, 2].map .number),
      .blank]

/-- Run a statement for every `line` and `column` of the display. -/
def forEachSlot (body : Stmt) : Stmt :=
  .countTo "line" (.number lcdLines) (.block [
    .countTo "column" (.name "LCD_COLUMNS") (.block [body])])

/-- Mark every slot of a frame array as blank. -/
def clearFrame (array : String) : Stmt :=
  forEachSlot (.store array (.name "line") (.name "column") (.name "BLANK_SLOT"))

/-- A call without a remark. -/
def run (function : String) (arguments : List Expr) : Stmt :=
  .call function arguments none

/-! ## Helpers of an animated sketch -/

/-- The shift that `scrollColumn` applies, before wrapping. -/
def shift : Direction → Expr
  | .left => .binary .sub (.name "column") (.name "scrollOffset")
  | .right => .binary .add (.name "column") (.name "scrollOffset")

/-- The function that wraps a shifted column into the display. The remainder of
a negative number is negative, so a column is added back then. -/
def scrollFunction (direction : Direction) : Item :=
  .function "int" "scrollColumn" [("int", "column")] (.block [
    .declare "int" "position" (.binary .mod (.parens (shift direction)) (.name "LCD_COLUMNS")),
    .ifThen (.binary .lt (.name "position") (.number 0)) (.block [
      .increase "position" (.name "LCD_COLUMNS")]),
    .ret (.name "position")])

/-- The function that puts a character into the current frame. -/
def placeFunction : Item :=
  .function "void" "placeGlyph" [("int", "line"), ("int", "column"), ("byte", "glyph")] (.block [
    .store "currentFrame" (.name "line") (.call "scrollColumn" (.name "column")) (.name "glyph")])

/-- Write a slot if the two frames differ there. -/
def updateSlot : Stmt :=
  .block [
    .declare "byte" "slot" (.entry "currentFrame" (.name "line") (.name "column")),
    .ifThen
      (.binary .ne (.name "slot") (.entry "previousFrame" (.name "line") (.name "column")))
      (.block [
        run "lcd.setCursor" [.name "column", .name "line"],
        .ifElse (.binary .eq (.name "slot") (.name "BLANK_SLOT"))
          (.block [run "lcd.print" [.char ' ']])
          (.block [run "lcd.write" [.name "slot"]]),
        .store "previousFrame" (.name "line") (.name "column") (.name "slot")])]

/-- The function that writes the slots in which the two frames differ. -/
def updateFunction : Item :=
  .function "void" "updateDisplay" [] (.block [forEachSlot updateSlot])

/-- The constants, variables and helper functions of an animated sketch. -/
def scrollItems (plan : Plan) (direction : Direction) : List Item :=
  [ .constant "int" "LCD_COLUMNS" lcdColumns,
    .constant "unsigned long" "SCROLL_DELAY_MS" plan.intervalMs.toNat,
    .variable "int" "scrollOffset" 0 ] ++
  (if plan.isPartial then
    [ .blank,
      .comment "Slot value meaning nothing is drawn there",
      .constant "byte" "BLANK_SLOT" 255,
      .frame "previousFrame",
      .frame "currentFrame" ]
  else []) ++
  [ .blank,
    .comment "Column a glyph occupies after shifting by the current offset",
    scrollFunction direction,
    .blank ] ++
  (if plan.isPartial then
    [ placeFunction,
      .blank,
      .comment "Only rewrite slots that differ from what is already on screen",
      updateFunction,
      .blank ]
  else [])

/-! ## Setup and loop -/

/-- Switch the LCD on. -/
def powerOn : Transmission → List Stmt
  | .i2c => [
      .call "lcd.init" [] (some "lcd.begin() can also be used"),
      run "lcd.backlight" []]
  | .parallel => [run "lcd.begin" [.number lcdColumns, .number lcdLines]]

/-- Name of the byte array of a character. -/
def charName (index : Nat) : String := "char" ++ toString index

/-- Hand one character to the LCD. -/
def createChar (format : NumberFormat) (index : Nat) (b : Bitmap) : List Stmt := [
  .blank,
  .comment ("Character " ++ toString index),
  .table (charName index) (b.bytes.map (.byte format)),
  run "lcd.createChar" [.number index, .name (charName index)]]

/-- The body of `setup`. -/
def setupBody (t : GlyphTable) (plan : Plan) (o : Options) : Stmt :=
  .block (
    powerOn o.transmission ++
    (t.entries.flatMap fun e => createChar o.numberFormat e.1 e.2) ++
    (if plan.isPartial then [.blank, clearFrame "previousFrame", run "lcd.clear" []] else []))

/-- Draw a placement at a column. -/
def drawAt (p : Placement) (column : Expr) : List Stmt := [
  run "lcd.setCursor" [column, .number p.line],
  run "lcd.write" [.call "byte" (.number p.glyph)]]

/-- Advance the scroll offset and wait. -/
def advance : List Stmt := [
  .assign "scrollOffset"
    (.binary .mod (.parens (.binary .add (.name "scrollOffset") (.number 1)))
      (.name "LCD_COLUMNS")),
  run "delay" [.name "SCROLL_DELAY_MS"]]

/-- The body of `loop`. -/
def loopBody (plan : Plan) : Stmt :=
  match plan with
  | .static placements =>
    .block ([run "lcd.clear" []] ++
      (placements.flatMap fun p => drawAt p (.number p.column)) ++
      [run "delay" [.number plan.intervalMs.toNat]])
  | .naive placements _ =>
    .block ([run "lcd.clear" []] ++
      (placements.flatMap fun p => drawAt p (.call "scrollColumn" (.number p.column))) ++
      advance)
  | .buffered placements _ _ =>
    .block ([clearFrame "currentFrame"] ++
      (placements.map fun p =>
        run "placeGlyph" [.number p.line, .number p.column, .number p.glyph]) ++
      [run "updateDisplay" []] ++
      advance)

/-- The sketch for a table of characters and a plan. -/
def Program.build (t : GlyphTable) (plan : Plan) (o : Options) : Program :=
  connection o.transmission ++
  (match plan.direction? with
    | some direction => scrollItems plan direction
    | none => []) ++
  [ .function "void" "setup" [] (setupBody t plan o),
    .blank,
    .function "void" "loop" [] (loopBody plan) ]

end CharLcd.Sketch
