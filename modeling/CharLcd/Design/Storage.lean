import CharLcd.Design.Check
import CharLcd.Design.Reader
import CharLcd.Design.Writer
import CharLcd.FileStore

/-!
# Design files on disk

- `DesignFile.ofContent`: the design in what was found at a path.
- `loadDisplay`: the display and options in what was found at a path.
- `LoadError`, `WriteError`: what can go wrong, and the words for it.
-/

namespace CharLcd

/-- Why no display can be loaded from a path. -/
inductive LoadError where
  | unreadable (path : String) (e : FileError)
  | unparsable (path : String) (f : Reader.Failure)
  | flawed (flaw : DesignFlaw)

/-- Why a file cannot be written. -/
structure WriteError where
  path : String
  cause : FileError
  deriving DecidableEq, Repr

namespace LoadError

/-- The error in words. A fault of the text is not described further. -/
def message : LoadError → String
  | unreadable path e => "Failed to read " ++ path ++ ": " ++ e.message
  | unparsable path (.fault _) => "Failed to parse " ++ path
  | unparsable path (.problem p) => "Failed to parse " ++ path ++ ": " ++ p.message
  | flawed flaw => flaw.message

end LoadError

namespace WriteError

/-- What failed, without the reason. -/
def context (e : WriteError) : String := "Failed to write " ++ e.path

/-- The error in words. -/
def message (e : WriteError) : String := e.context ++ ": " ++ e.cause.message

end WriteError

/-- The design in what was found at a path. -/
def DesignFile.ofContent (path : String) (content : Except FileError String) :
    Except LoadError DesignFile :=
  match content with
  | .error e => .error (.unreadable path e)
  | .ok text =>
    match DesignFile.parse text with
    | .error f => .error (.unparsable path f)
    | .ok design => .ok design

/-- The display and options of a design, or what is wrong with it. -/
def DesignFile.validate (design : DesignFile) : Except LoadError (Display × Options) :=
  match design.toDisplay with
  | .error flaw => .error (.flawed flaw)
  | .ok result => .ok result

/-- The display and options in what was found at a path. -/
def loadDisplay (path : String) (content : Except FileError String) :
    Except LoadError (Display × Options) := do
  (← DesignFile.ofContent path content).validate

end CharLcd
