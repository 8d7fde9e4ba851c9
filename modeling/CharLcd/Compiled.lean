import CharLcd.Frame
import CharLcd.Sketch.Build
import CharLcd.Sketch.Printer

/-!
# Compiling a design

The whole way from a display and its options to the finished sketch.

- `Compiled.ofDesign`: the characters, the plan and the sketch of a design.
- `generate`: the text of the sketch.
-/

namespace CharLcd

/-- All that compiling a design produces. -/
structure Compiled where
  glyphs : GlyphTable
  slots : SlotMap
  plan : Plan
  program : Sketch.Program
  deriving DecidableEq

namespace Compiled

/-- Compile a display with the given options. -/
def ofDesign (d : Display) (o : Options) : Compiled :=
  let glyphs := GlyphTable.ofDisplay d
  let slots := glyphs.place d
  let plan := Plan.ofSlots slots o
  { glyphs, slots, plan, program := Sketch.Program.build glyphs plan o }

/-- The text of the sketch. -/
def code (c : Compiled) : String := c.program.text

/-- The lines of the sketch, without their line ends. -/
def codeLines (c : Compiled) : List String := c.program.lines.map Sketch.Line.render

/-- The frame shown on a tick. -/
def frame (c : Compiled) (tick : Nat) : Frame := Frame.ofPlan c.plan tick

end Compiled

/-- The sketch of a display. -/
def generate (d : Display) (o : Options) : String :=
  (Compiled.ofDesign d o).code

end CharLcd
