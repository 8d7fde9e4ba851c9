import CharLcd.Json.Document
import CharLcd.Text.Quoted

/-!
# Why a document cannot be read

- `Problem`: the text is JSON as far as it was read, but its content is wrong.
- `Failure`: a problem, or a fault of the text itself.
- `Problem.message`: a problem in words.
- `Failure.mismatch`: the failure when a value of another kind is wanted.
-/

namespace CharLcd.Reader

open Json

/-- The kind of a value that stands where another kind is wanted. -/
inductive Found where
  | null
  | bool (b : Bool)
  | number (n : Number)
  | string (s : String)
  | sequence
  | map

/-- What is wrong with the content of a document. -/
inductive Problem where
  | invalidType (found : Found) (wanted : String)
  /-- An integer outside the wanted range. -/
  | invalidValue (n : Int) (wanted : String)
  /-- An array with too few items for a record. -/
  | invalidLength (length : Nat) (wanted : String)
  | missingField (name : String)
  | duplicateField (name : String)
  | unknownVariant (name : String) (known : List String)
  /-- A character in a row of pixels that is no pixel. -/
  | invalidPixel (c : Char)
  /-- An item in a row of pixels that is no pixel. -/
  | noPixel

/-- Why a document cannot be read: the first flaw that is met from left to right. -/
inductive Failure where
  | fault (f : Fault)
  | problem (p : Problem)

/-- The result of reading. -/
abbrev Reads := Except Failure

namespace Found

/-- A value as messages name it. -/
def text : Found → String
  | null => "null"
  | bool b => "boolean `" ++ (if b then "true" else "false") ++ "`"
  | number (.integer n) => "integer `" ++ (Number.integer n).text ++ "`"
  | number (.float x) => "floating point `" ++ (Number.float x).text ++ "`"
  | string s => "string " ++ Text.quoted s
  | sequence => "sequence"
  | map => "map"

end Found

/-- A name between backticks. -/
def named (name : String) : String := "`" ++ name ++ "`"

/-- A problem in words. -/
def Problem.message : Problem → String
  | invalidType found wanted => "invalid type: " ++ found.text ++ ", expected " ++ wanted
  | invalidValue n wanted =>
    "invalid value: integer " ++ named (toString n) ++ ", expected " ++ wanted
  | invalidLength length wanted => "invalid length " ++ toString length ++ ", expected " ++ wanted
  | missingField name => "missing field " ++ named name
  | duplicateField name => "duplicate field " ++ named name
  | unknownVariant name known =>
    "unknown variant " ++ named name ++ ", expected " ++ " or ".intercalate (known.map named)
  | invalidPixel c => "invalid pixel character " ++ Text.quotedChar c
  | noPixel => "data did not match any variant of untagged enum PixelValue"

namespace Failure

/-- The failure when a value of another kind is wanted. A scalar is read before
it is refused, so a fault inside it is met first. -/
def mismatch (wanted : String) : Value → Failure
  | .null => .problem (.invalidType .null wanted)
  | .bool b => .problem (.invalidType (.bool b) wanted)
  | .number spelling =>
    match Number.ofSpelling? spelling with
    | some n => .problem (.invalidType (.number n) wanted)
    | none => .fault .malformed
  | .string (some s) => .problem (.invalidType (.string s) wanted)
  | .string none => .fault .malformed
  | .array _ _ => .problem (.invalidType .sequence wanted)
  | .object _ _ => .problem (.invalidType .map wanted)
  | .broken breach => .fault breach.whenRead

end Failure

/-- Fail with a problem. -/
def refuse {α : Type} (p : Problem) : Reads α := .error (.problem p)

/-- Fail with a fault of the text. -/
def stop {α : Type} (f : Fault) : Reads α := .error (.fault f)

/-- Go on unless there is a fault. -/
def check : Option Fault → Reads Unit
  | none => .ok ()
  | some f => .error (.fault f)

end CharLcd.Reader
