import CharLcd.Reader.Failure

/-!
# Reading values

Readers for the kinds of values that design and configuration files hold.

- `flag`, `natural`, `unit`: booleans, natural numbers up to a limit, and null.
- `choice`: one of several names.
- `listOf`: arrays of values of one kind.
- `Record`: objects with known fields; `Record.read` reads one from an object,
  or from an array that holds the fields in order.
- `document`: a whole text.
-/

namespace CharLcd.Reader

open Json

/-! ## Scalars -/

/-- A boolean. -/
def flag : Value → Reads Bool
  | .bool b => .ok b
  | v => .error (.mismatch "a boolean" v)

/-- A natural number up to a limit. -/
def natural (limit : Nat) (wanted : String) : Value → Reads Nat
  | .number spelling =>
    match Number.ofSpelling? spelling with
    | some (.integer n) =>
      if 0 ≤ n ∧ n ≤ limit then .ok n.toNat else refuse (.invalidValue n wanted)
    | some n => refuse (.invalidType (.number n) wanted)
    | none => stop .malformed
  | v => .error (.mismatch wanted v)

/-- The value null. -/
def unit : Value → Reads Unit
  | .null => .ok ()
  | v => .error (.mismatch "unit" v)

/-- A string. -/
def string (wanted : String) : Value → Reads String
  | .string (some s) => .ok s
  | v => .error (.mismatch wanted v)

/-! ## Choices -/

/-- The item with a name. -/
def variant {α : Type} (name : α → String) (all : List α) (s : String) : Reads α :=
  match all.find? fun a => name a = s with
  | some a => .ok a
  | none => refuse (.unknownVariant s (all.map name))

/-- One of several items, given by its name, or by an object whose only key is
the name and whose value is null. -/
def choice {α : Type} (name : α → String) (all : List α) : Value → Reads α
  | .string (some s) => variant name all s
  | .broken .ended => stop .ended
  | .broken (.text whenRead _) => stop whenRead
  | .object [] ending => stop (ending.readFault?.getD .malformed)
  | .object ((some key, value) :: rest) ending => do
    let a ← variant name all key
    unit value
    match rest, ending with
    | [], .closed => .ok a
    | [], .unclosed f => stop f
    | _, _ => stop .malformed
  | _ => stop .malformed

/-! ## Lists -/

/-- An array of values of one kind. -/
def listOf {α : Type} (item : Value → Reads α) : Value → Reads (List α)
  | .array items ending => do
    let xs ← items.mapM item
    check ending.readFault?
    return xs
  | v => .error (.mismatch "a sequence" v)

/-! ## Records -/

/-- A field of a record: how its value changes what has been read so far. -/
structure Field (σ : Type) where
  name : String
  read : Value → σ → Reads σ
  /-- Whether the field may be left out. -/
  optional : Bool := true

/-- A record: its name, its fields in order, and what it is when they all are
left out. -/
structure Record (σ : Type) where
  name : String
  fields : List (Field σ)
  start : σ

namespace Record

variable {σ : Type}

/-- What has been read of a record, and which fields it had. -/
structure Progress (σ : Type) where
  state : σ
  seen : List String

/-- Read a member of an object. Members that are no fields are skipped, and no
field may come twice. -/
def readMember (r : Record σ) (p : Progress σ) : Option String × Value → Reads (Progress σ)
  | (none, _) => stop .malformed
  | (some key, value) =>
    match r.fields.find? fun f => f.name = key with
    | none => do
      check value.skipFault?
      return p
    | some f =>
      if key ∈ p.seen then refuse (.duplicateField key)
      else do
        let s ← f.read value p.state
        return ⟨s, key :: p.seen⟩

/-- Read the members of an object. -/
def readMembers (r : Record σ) (members : List (Option String × Value)) (ending : Ending) :
    Reads σ := do
  let p ← members.foldlM r.readMember ⟨r.start, []⟩
  check ending.readFault?
  match r.fields.find? fun f => !f.optional && f.name ∉ p.seen with
  | some f => refuse (.missingField f.name)
  | none => return p.state

/-- Read the fields from the items of an array, of which `length` have been read.
There may not be more items than fields. -/
def readItems (r : Record σ) (ending : Ending) (length : Nat) (s : σ) :
    List (Field σ) → List Value → Reads σ
  | [], [] => do
    check ending.readFault?
    return s
  | [], _ :: _ => stop .malformed
  | f :: fields, [] => do
    check ending.readFault?
    if f.optional then readItems r ending length s fields []
    else refuse (.invalidLength length
      (r.name ++ " with " ++ toString r.fields.length ++ " elements"))
  | f :: fields, v :: items => do
    let s ← f.read v s
    readItems r ending (length + 1) s fields items

/-- Read a record. -/
def read (r : Record σ) : Value → Reads σ
  | .object members ending => r.readMembers members ending
  | .array items ending => r.readItems ending 0 r.start r.fields items
  | v => .error (.mismatch r.name v)

end Record

/-- Read a whole text. Nothing but space may follow the value. -/
def document {α : Type} (value : Value → Reads α) (text : String) : Reads α :=
  let d := Document.ofText text
  match value d.value with
  | .error e => .error e
  | .ok a => if d.trailing then stop .malformed else .ok a

end CharLcd.Reader
