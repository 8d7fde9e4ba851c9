import CharLcd.Compiled

/-!
# Editing sessions

A session owns a display, its options and a clipboard, and keeps the compiled
sketch in step with them.

- `Session`: the state; every edit recompiles what it changed, so `compiled`
  always belongs to the display and the options.
- The edits return the new session with a report of what happened; an edit that
  fails or changes nothing returns the session as it was.
-/

namespace CharLcd

/-- A display with its options, the copied bitmap, and the compiled sketch. -/
structure Session where
  display : Display
  options : Options
  /-- The bitmap copied last, if any. -/
  clipboard : Option Bitmap
  compiled : Compiled

namespace Session

/-- A session on a design, with nothing copied. -/
def ofDesign (d : Display) (o : Options) : Session :=
  ⟨d, o, none, Compiled.ofDesign d o⟩

/-- A session on the blank display with default options. -/
def blank : Session := ofDesign Display.blank {}

/-- The redraw plan of the current design. -/
def plan (s : Session) : Plan := s.compiled.plan

/-- The text of the current sketch. -/
def code (s : Session) : String := s.compiled.code

/-- Compile the sketch anew. -/
def recompile (s : Session) : Session :=
  { s with compiled := Compiled.ofDesign s.display s.options }

/-- A sketch that has just been compiled belongs to the design. -/
theorem compiled_recompile (s : Session) :
    s.recompile.compiled = Compiled.ofDesign s.recompile.display s.recompile.options := rfl

/-! ## Edits of the display -/

/-- Replace the display. -/
def setDisplay (s : Session) (d : Display) : Session :=
  recompile { s with display := d }

@[simp] theorem display_setDisplay (s : Session) (d : Display) : (s.setDisplay d).display = d :=
  rfl

@[simp] theorem options_setDisplay (s : Session) (d : Display) :
    (s.setDisplay d).options = s.options := rfl

@[simp] theorem clipboard_setDisplay (s : Session) (d : Display) :
    (s.setDisplay d).clipboard = s.clipboard := rfl

/-- Set one pixel, and report whether that changed anything. -/
def setPixel (s : Session) (line column row col : Nat) (on : Bool) : Session × Bool :=
  match s.display.get? line column with
  | none => (s, false)
  | some cell =>
    if cell.get? row col = some on then (s, false)
    else
      match cell.set? row col on with
      | none => (s, false)
      | some cell =>
        match s.display.set? line column cell with
        | none => (s, false)
        | some d => (s.setDisplay d, true)

/-- Flip one pixel, and report its new state; `none` when it does not exist. -/
def togglePixel (s : Session) (line column row col : Nat) : Session × Option Bool :=
  match (s.display.get? line column).bind (·.toggle? row col) with
  | none => (s, none)
  | some (cell, on) =>
    match s.display.set? line column cell with
    | none => (s, none)
    | some d => (s.setDisplay d, some on)

/-- Replace a cell, and report whether that changed anything. -/
def setCell (s : Session) (line column : Nat) (b : Bitmap) : Session × Bool :=
  if s.display.get? line column = some b then (s, false)
  else
    match s.display.set? line column b with
    | none => (s, false)
    | some d => (s.setDisplay d, true)

/-- Blank a cell, and report whether that changed anything. -/
def clearCell (s : Session) (line column : Nat) : Session × Bool :=
  s.setCell line column Bitmap.blank

/-- Blank the whole display. -/
def resetDisplay (s : Session) : Session :=
  s.setDisplay Display.blank

/-- Remember the bitmap of a cell; `false` when the cell does not exist. -/
def copyCell (s : Session) (line column : Nat) : Session × Bool :=
  match s.display.get? line column with
  | none => (s, false)
  | some b => ({ s with clipboard := some b }, true)

/-- Put the copied bitmap into a cell, and report whether that changed anything. -/
def pasteCell (s : Session) (line column : Nat) : Session × Bool :=
  match s.clipboard with
  | none => (s, false)
  | some b => s.setCell line column b

/-! ## Edits of the options -/

/-- Replace the options, with an interval of at least one millisecond, and
report whether that changed anything. -/
def setOptions (s : Session) (o : Options) : Session × Bool :=
  if o.clamped = s.options then (s, false)
  else (recompile { s with options := o.clamped }, true)

/-- Change the options by a function, and report whether that changed anything. -/
def updateOptions (s : Session) (change : Options → Options) : Session × Bool :=
  s.setOptions (change s.options)

end Session

end CharLcd
