import CharLcd.CommandLine
import CharLcd.Terminal.Input

/-!
# The program

Connects the command line to real files and to the terminal. The terminal is
expected to send keys as they are pressed; its size is taken from the variables
`COLUMNS` and `LINES`.
-/

namespace CharLcd.Main

open Terminal

/-! ## Files -/

/-- Why a file operation failed. -/
def fileError : IO.Error → FileError
  | .noFileOrDirectory .. => .notFound
  | .inappropriateType _ 21 _ => .isDirectory
  | .inappropriateType _ 20 _ => .notDirectory
  | .invalidArgument _ 36 _ => .nameTooLong
  | e => .other (toString e)

/-- The text of a file. -/
def readText (path : String) : IO (Except FileError String) := do
  match ← (IO.FS.readBinFile path).toBaseIO with
  | .error e => return .error (fileError e)
  | .ok bytes =>
    match String.fromUTF8? bytes with
    | some text => return .ok text
    | none => return .error .notText

/-- Write a text to a file. -/
def writeText (path content : String) : IO (Except FileError Unit) := do
  match ← (IO.FS.writeFile path content).toBaseIO with
  | .error e => return .error (fileError e)
  | .ok () => return .ok ()

/-- What was found at a path; `none` when nothing was. -/
def lookUp (path : String) : IO (Option (Except FileError String)) := do
  match ← readText path with
  | .error .notFound | .error .notDirectory | .error .nameTooLong => return none
  | content => return some content

/-- The configuration of the editor, from the home directory. -/
def loadConfig : IO EditorConfig := do
  let home := (← IO.getEnv "HOME").getD "."
  return EditorConfig.ofContent (← readText (home ++ "/" ++ EditorConfig.path))

/-! ## Terminal -/

/-- A number in an environment variable. -/
def envNat (name : String) (otherwise : Nat) : IO Nat := do
  return ((← IO.getEnv name).bind String.toNat?).getD otherwise

def terminalSize : IO Size := do
  return ⟨← envNat "COLUMNS" 120, ← envNat "LINES" 40⟩

/-- The present instant, in nanoseconds. -/
def now : IO Time := IO.monoNanosNow

def draw (commands : List Command) : IO Unit := do
  let out ← IO.getStdout
  out.putStr (render commands)
  out.flush

/-- Read what the terminal sends next. -/
def readInput : IO (List Event) := do
  let bytes ← (← IO.getStdin).read 256
  return Input.events ((String.fromUTF8? bytes).getD "")

/-- Wait for a task, but no longer than a time. -/
partial def await {α : Type} (task : Task α) (limit : Option Time) : IO (Option α) := do
  if ← IO.hasFinished task then return some (← IO.wait task)
  if let some t := limit then
    if t ≤ (← now) then return none
  IO.sleep 5
  await task limit

/-! ## Loops -/

/-- Run the preview until it quits or there is no more input. -/
partial def previewLoop (p : Preview) (size : Size) (input : Task (Except IO.Error (List Event))) :
    IO Unit := do
  let time ← now
  match ← await input ((p.task.timeUntilDue? time).map (time + ·)) with
  | none =>
    let (p, drawn) := p.poll (← now) size
    draw drawn
    previewLoop p size input
  | some (.ok (first :: rest)) =>
    match ← handleAll p (first :: rest) with
    | none => return
    | some p => previewLoop p size (← IO.asTask readInput)
  | some _ => return
where
  handleAll (p : Preview) (events : List Event) : IO (Option Preview) := do
    let mut p := p
    for e in events do
      match p.step (← now) size e with
      | none => return none
      | some (next, drawn) =>
        draw drawn
        p := next
    return some p

/-- Carry out what follows an event; `none` when the editor quits. -/
def follow (s : Editor) (size : Size) : Action → IO (Option Editor)
  | .ignore => return some s
  | .redraw => redraw s
  | .save => do redraw (s.reportSave (← writeText s.path s.fileText))
  | .exportSketch => do redraw (s.reportExport (← writeText s.exportPath s.session.code))
  | .quit => return none
where
  redraw (s : Editor) : IO (Option Editor) := do
    draw (s.drawScreen size)
    return some s

/-- Run the editor until it quits or there is no more input. -/
partial def editLoop (s : Editor) (size : Size) (input : Task (Except IO.Error (List Event))) :
    IO Unit := do
  let time ← now
  match ← await input ((s.playback.timeUntilDue? time).map (time + ·)) with
  | none => editLoop (← pass s) size input
  | some (.ok (first :: rest)) =>
    match ← handleAll s (first :: rest) with
    | none => return
    | some s => editLoop s size (← IO.asTask readInput)
  | some _ => return
where
  pass (s : Editor) : IO Editor := do
    let (s, drawn) := s.pass (← now) size
    draw drawn
    return s
  handleAll (s : Editor) (events : List Event) : IO (Option Editor) := do
    let mut s := s
    for e in events do
      let (next, action) := s.handle (← now) (Layout.ofSize size) e
      match ← follow next size action with
      | none => return none
      | some next => s ← pass next
    return some s

/-! ## Jobs -/

/-- The result of a job: nothing, or why it failed. -/
abbrev Result := Except CommandLine.Failure Unit

def generate (design : String) (output : Option String) : IO Result := do
  match CommandLine.sketchOf design (← readText design), output with
  | .error e, _ => return .error (.load e)
  | .ok code, none =>
    IO.print code
    return .ok ()
  | .ok code, some output =>
    match ← writeText output code with
    | .error e => return .error (.write ⟨output, e⟩)
    | .ok () =>
      IO.eprint (CommandLine.generated design output)
      return .ok ()

def preview (design : String) : IO Result := do
  match loadDisplay design (← readText design) with
  | .error e => return .error (.load e)
  | .ok (d, o) =>
    let size ← terminalSize
    if Preview.fits size then
      let p := (Preview.ofDesign d o).resume (← now)
      draw (Preview.enter ++ p.drawScreen size)
      previewLoop p size (← IO.asTask readInput)
      draw Preview.leave
      return .ok ()
    else return .error (.terminal size)

def edit (design : String) : IO Result := do
  match Editor.openFile design (← lookUp design) (← loadConfig) with
  | .error e => return .error (.editor e)
  | .ok s =>
    let size ← terminalSize
    draw (Editor.enter ++ s.drawScreen size)
    editLoop s size (← IO.asTask readInput)
    draw Editor.leave
    return .ok ()

/-- Carry out what the arguments ask for. -/
def runArgs (args : List String) : IO Result := do
  match CommandLine.parse args with
  | .error e => return .error (.usage e)
  | .ok (.generate design output) => generate design output
  | .ok (.preview design) => preview design
  | .ok (.edit design) => edit design

end CharLcd.Main

/-- The program: its exit code is 1 when a job fails. -/
def main (args : List String) : IO UInt32 := do
  match ← CharLcd.Main.runArgs args with
  | .ok () => return 0
  | .error f =>
    IO.eprint ("Error: " ++ f.message ++ "\n")
    return 1
