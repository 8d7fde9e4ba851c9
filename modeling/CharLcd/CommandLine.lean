import CharLcd.Editor.Loop
import CharLcd.Preview

/-!
# The command line

- `Job`: what the arguments ask for; `CommandLine.parse` finds out.
- `CommandLine.run`: carries it out on a file store and a terminal on which all
  events wait to be read.
- `Outcome`: the exit code, what was printed, and the files afterwards.
-/

namespace CharLcd.CommandLine

open Terminal

/-- What the arguments ask for. -/
inductive Job where
  /-- Write the sketch of a design, to a file or to the output. -/
  | generate (design : String) (output : Option String)
  | preview (design : String)
  | edit (design : String)
  deriving DecidableEq, Repr

/-- What is wrong with the arguments. -/
inductive UsageError where
  | noJob
  | generate
  | preview
  | edit
  deriving DecidableEq, Repr

namespace UsageError

def generateUsage : String := "lcd-glyph-studio generate <design.json> [output.ino]"

def previewUsage : String := "lcd-glyph-studio preview <design.json>"

def editUsage : String := "lcd-glyph-studio edit <design.json>"

/-- How the program is used. -/
def message : UsageError → String
  | noJob =>
    "LCD Glyph Studio: custom characters for 16x2 displays\n\nUsage:\n  " ++ generateUsage ++
      "\n  " ++ previewUsage ++ "\n  " ++ editUsage
  | generate => generateUsage
  | preview => previewUsage
  | edit => editUsage

end UsageError

/-- What the arguments ask for. Arguments after those that are needed are ignored. -/
def parse : List String → Except UsageError Job
  | "generate" :: design :: output :: _ => .ok (.generate design (some output))
  | ["generate", design] => .ok (.generate design none)
  | ["generate"] => .error .generate
  | "preview" :: design :: _ => .ok (.preview design)
  | ["preview"] => .error .preview
  | "edit" :: design :: _ => .ok (.edit design)
  | ["edit"] => .error .edit
  | _ => .error .noJob

/-- Why a job fails. -/
inductive Failure where
  | usage (e : UsageError)
  | load (e : LoadError)
  | write (e : WriteError)
  | terminal (size : Size)
  | editor (e : Editor.OpenError)

/-- The failure in words. -/
def Failure.message : Failure → String
  | usage e => e.message
  | load e => e.message
  | write e => e.message
  | terminal size => Preview.tooSmall size
  | editor e => e.message

/-- What a run of the program leaves. -/
structure Outcome where
  code : Nat
  output : String
  errors : String
  files : FileStore

/-- The end of a run that fails. -/
def Failure.outcome (f : Failure) (files : FileStore) : Outcome :=
  { code := 1, output := "", errors := "Error: " ++ f.message ++ "\n", files }

/-- What is said after a sketch has been written to a file. -/
def generated (design output : String) : String :=
  "Generated " ++ design ++ " -> " ++ output ++ "\n"

/-- The sketch of the design in what was found at a path. -/
def sketchOf (path : String) (content : Except FileError String) : Except LoadError String := do
  let (d, o) ← loadDisplay path content
  return CharLcd.generate d o

/-- What was found at a path; `none` when nothing was. -/
def lookUp (files : FileStore) (path : String) : Option (Except FileError String) :=
  if files.exists? path then some (files.read path) else none

/-- The configuration of the editor in a file store. -/
def config (files : FileStore) : EditorConfig :=
  EditorConfig.ofContent (files.read EditorConfig.path)

/-- A terminal on which all events wait to be read. -/
structure Console where
  size : Size
  events : List Event

/-- Generate a sketch. -/
def runGenerate (files : FileStore) (design : String) (output : Option String) :
    Except Failure Outcome := do
  match sketchOf design (files.read design), output with
  | .error e, _ => throw (.load e)
  | .ok code, none => return { code := 0, output := code, errors := "", files }
  | .ok code, some output =>
    match files.write output code with
    | .error e => throw (.write ⟨output, e⟩)
    | .ok files => return { code := 0, output := "", errors := generated design output, files }

/-- Show a design. -/
def runPreview (files : FileStore) (design : String) (console : Console) :
    Except Failure Outcome := do
  match loadDisplay design (files.read design) with
  | .error e => throw (.load e)
  | .ok (d, o) =>
    if Preview.fits console.size then
      let drawn := (Preview.ofDesign d o).run 0 console.size console.events
      return { code := 0, output := render drawn, errors := "", files }
    else throw (.terminal console.size)

/-- Edit a design. -/
def runEdit (files : FileStore) (design : String) (console : Console) : Except Failure Outcome := do
  match Editor.openFile design (lookUp files design) (config files) with
  | .error e => throw (.editor e)
  | .ok s =>
    let (files, drawn) := s.run files 0 console.size console.events
    return { code := 0, output := render drawn, errors := "", files }

/-- Carry out a job. -/
def runJob (files : FileStore) (console : Console) : Job → Except Failure Outcome
  | .generate design output => runGenerate files design output
  | .preview design => runPreview files design console
  | .edit design => runEdit files design console

/-- Run the program. -/
def run (files : FileStore) (args : List String) (console : Console) : Outcome :=
  match parse args with
  | .error e => (Failure.usage e).outcome files
  | .ok job =>
    match runJob files console job with
    | .error f => f.outcome files
    | .ok outcome => outcome

end CharLcd.CommandLine
