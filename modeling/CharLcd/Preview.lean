import CharLcd.Compiled
import CharLcd.LcdView
import CharLcd.Menu
import CharLcd.Playback
import CharLcd.Terminal.Event

/-!
# The standalone preview

Shows a design on the simulated LCD and lets it scroll. On each tick only the
slots that change are drawn again.

- `Preview`: the state; `Preview.ofDesign` is the one that the program starts in.
- `press`, `poll`: what a key press and the passing of time do.
- `drawMenu`, `drawAll`, `drawStatus`: the parts of the screen.
- `run`: a whole run over events that wait to be read.
-/

namespace CharLcd

open Terminal

-- programs count nanoseconds
attribute [local instance] Clock.nanoseconds

/-- A design that is being shown: the tick, and the frame on the screen. -/
structure Preview where
  compiled : Compiled
  task : RepeatingTask := .stopped
  /-- It goes up by one at a time, so no run of the program comes near `2 ^ 64`. -/
  tick : Nat := 0
  frame : Frame

namespace Preview

/-- Show a design, stopped at tick 0. -/
def ofDesign (d : Display) (o : Options) : Preview :=
  let compiled := Compiled.ofDesign d o
  { compiled, frame := compiled.frame 0 }

/-- Start to scroll, if the plan moves. -/
def resume (p : Preview) (now : Time) : Preview :=
  if p.compiled.plan.isAnimated then
    { p with task := .start now (milliseconds p.compiled.plan.intervalMs.toNat) }
  else p

/-! ## The screen -/

/-- Where the LCD is drawn: below the menu. -/
def lcdBox : Position := ⟨0, 1⟩

/-- The row of the status line: below the LCD. -/
def statusRow : Nat := lcdBox.row + LcdView.boxHeight

/-- The smallest terminal that the preview fits on. -/
def leastSize : Size := ⟨LcdView.boxWidth, LcdView.boxHeight + 2⟩

/-- The items of the menu. -/
def menuItems : List String :=
  ["[Space] play/pause", "[←][→] step", "[Home] first", "[q][Esc] quit"]

/-- Draw the menu. -/
def drawMenu : List Command :=
  [.moveTo 0 0, .clearLine, .print " "] ++
    [Command.print "  "].intercalate (menuItems.map fun item => Menu.draw item false)

/-- Draw the LCD. -/
def drawAll (p : Preview) : List Command :=
  LcdView.drawLcd lcdBox p.frame p.compiled.glyphs none

/-- The text of the status line. -/
def status (p : Preview) : String :=
  let plan := p.compiled.plan
  if plan.isAnimated then
    " Tick " ++ toString p.tick ++ " (offset " ++ toString (p.tick % lcdColumns) ++ ") | every " ++
      toString plan.intervalMs.toNat ++ " ms | " ++
      (if p.task.isRunning then "playing" else "paused") ++ " "
  else " Static layout | scrolling is off "

/-- Draw the status line, if the terminal has room for it. -/
def drawStatus (p : Preview) (size : Size) : List Command :=
  if size.height ≤ statusRow then []
  else [.moveTo 0 statusRow, .clearLine, .styled { dim := true } p.status]

/-- Draw everything. -/
def drawScreen (p : Preview) (size : Size) : List Command :=
  drawMenu ++ p.drawAll ++ p.drawStatus size

/-- Go to a tick, drawing the slots that change. -/
def goTo (p : Preview) (size : Size) (tick : Nat) : Preview × List Command :=
  let next := p.compiled.frame tick
  let changes := (p.frame.diff next).flatMap fun w =>
    LcdView.drawSlot lcdBox w.line w.column (p.compiled.glyphs.show? w.slot) false
  let p := { p with tick, frame := next }
  (p, changes ++ p.drawStatus size)

/-! ## Events -/

/-- What a key does; `none` when it quits. -/
def press (p : Preview) (now : Time) (size : Size) (code : KeyCode) :
    Option (Preview × List Command) :=
  match code with
  | .char 'q' | .esc => none
  | .char ' ' =>
    let p := if p.task.isRunning then { p with task := .stopped } else p.resume now
    some (p, p.drawStatus size)
  | .right => some (p.goTo size (p.tick + 1))
  | .left => some (p.goTo size (p.tick - 1))
  | .home => some (p.goTo size 0)
  | _ => some (p, [])

/-- What an event does; `none` when it quits. -/
def handle (p : Preview) (now : Time) (size : Size) : Event → Option (Preview × List Command)
  | .key k => p.press now size k.code
  | .resize => some (p, .clearScreen :: p.drawScreen size)
  | _ => some (p, [])

/-- Advance by a tick if the task is due. -/
def poll (p : Preview) (now : Time) (size : Size) : Preview × List Command :=
  let (task, fired) := p.task.poll now
  let p := { p with task }
  if fired then p.goTo size (p.tick + 1) else (p, [])

/-- One round of the program: an event, then the passing of time. -/
def step (p : Preview) (now : Time) (size : Size) (e : Event) : Option (Preview × List Command) :=
  match p.handle now size e with
  | none => none
  | some (p, drawn) =>
    let (p, more) := p.poll now size
    some (p, drawn ++ more)

/-! ## Whole runs -/

/-- Take the terminal over. -/
def enter : List Command := [.enterScreen, .hideCursor, .clearScreen]

/-- Give the terminal back. -/
def leave : List Command := [.showCursor, .leaveScreen]

/-- All that is drawn while events are handled at one instant. -/
def runEvents (now : Time) (size : Size) (p : Preview) : List Event → List Command
  | [] => []
  | e :: rest =>
    match p.step now size e with
    | none => []
    | some (p, drawn) => drawn ++ runEvents now size p rest

/-- All that is drawn in a run over events that wait to be read. -/
def run (p : Preview) (now : Time) (size : Size) (events : List Event) : List Command :=
  let p := p.resume now
  enter ++ p.drawScreen size ++ runEvents now size p events ++ leave

/-- Whether the preview fits on a terminal. -/
def fits (size : Size) : Bool :=
  leastSize.width ≤ size.width && leastSize.height ≤ size.height

/-- What is said when it does not. -/
def tooSmall (size : Size) : String :=
  "Terminal too small: need " ++ toString leastSize.width ++ "x" ++ toString leastSize.height ++
    ", have " ++ toString size.width ++ "x" ++ toString size.height

end Preview

end CharLcd
