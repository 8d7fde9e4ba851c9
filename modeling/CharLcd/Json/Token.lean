/-!
# Tokens of JSON texts

A text is cut into tokens from left to right, one character at a time. Where
the text stops being JSON the last token says how, and nothing follows it.

- `Fault`: the two ways in which a text fails to be JSON.
- `Token`: the tokens; `Token.broken` is the one that could not be completed.
- `Mode.step`, `Mode.finish`: what a character, or the end of the text, does.
- `tokens`: the tokens of a text.
-/

namespace CharLcd.Json

/-- How a text fails to be JSON. -/
inductive Fault where
  /-- It ends too early. -/
  | ended
  /-- It goes on with something that cannot stand there. -/
  | malformed
  deriving DecidableEq, Repr

/-- Something that stands where a token or a value should be. A value whose
content is not needed is checked less strictly, so some have two faults. -/
inductive Breach where
  /-- The end of the text. -/
  | ended
  /-- A character that begins nothing, or a token out of place. -/
  | stray
  /-- A word or a number that is not completed. -/
  | scalar (whenRead whenSkipped : Fault)
  /-- A string that is not completed. -/
  | text (whenRead whenSkipped : Fault)
  deriving DecidableEq, Repr

namespace Breach

/-- The fault met when the content is read. -/
def whenRead : Breach → Fault
  | ended => .ended
  | stray => .malformed
  | scalar fault _ => fault
  | text fault _ => fault

/-- The fault met when the content is skipped. -/
def whenSkipped : Breach → Fault
  | ended => .ended
  | stray => .malformed
  | scalar _ fault => fault
  | text _ fault => fault

end Breach

/-- The tokens of JSON. -/
inductive Token where
  | openArray
  | closeArray
  | openObject
  | closeObject
  | comma
  | colon
  | null
  | bool (b : Bool)
  /-- A number as it is spelled. -/
  | number (spelling : List Char)
  /-- A string; `none` when its escapes leave half of a surrogate pair alone. -/
  | string (content : Option String)
  | broken (breach : Breach)
  deriving DecidableEq, Repr

/-! ## Numbers -/

/-- How far the spelling of a number has come. -/
inductive NumberPart where
  | sign
  | zero
  | whole
  | point
  | fraction
  | mark
  | markSign
  | exponent
  deriving DecidableEq, Repr

namespace NumberPart

/-- Whether the number may end here. -/
def isComplete : NumberPart → Bool
  | zero | whole | fraction | exponent => true
  | sign | point | mark | markSign => false

/-- The part that a further character leads to; `none` when the character does
not continue the number. -/
def next? (part : NumberPart) (c : Char) : Option NumberPart :=
  match part with
  | sign => if c = '0' then some zero else if c.isDigit then some whole else none
  | zero => if c = '.' then some point else if c = 'e' ∨ c = 'E' then some mark else none
  | whole =>
    if c.isDigit then some whole
    else if c = '.' then some point else if c = 'e' ∨ c = 'E' then some mark else none
  | point => if c.isDigit then some fraction else none
  | fraction =>
    if c.isDigit then some fraction else if c = 'e' ∨ c = 'E' then some mark else none
  | mark =>
    if c = '+' ∨ c = '-' then some markSign else if c.isDigit then some exponent else none
  | markSign => if c.isDigit then some exponent else none
  | exponent => if c.isDigit then some exponent else none

/-- Whether the number ends before a character that does not continue it. No
digit may follow a leading zero. -/
def endsBefore (part : NumberPart) (c : Char) : Bool :=
  part.isComplete && !(part = zero && c.isDigit)

end NumberPart

/-! ## Strings -/

/-- Where in a string the text stands. -/
inductive StringPart where
  /-- Between two characters. -/
  | plain
  /-- After a backslash. -/
  | backslash
  /-- After `\u`: how many bytes have been seen, and the number that their
  digits make, if they all are digits. -/
  | code (bytes : Nat) (value : Option Nat)
  deriving DecidableEq, Repr

/-- The content of a string so far. -/
structure Content where
  /-- The characters, last one first; `none` once half of a pair stood alone. -/
  reversed : Option (List Char)
  /-- The first half of a surrogate pair that waits for the second. -/
  high : Option Nat
  deriving DecidableEq, Repr

namespace Content

def empty : Content := ⟨some [], none⟩

/-- Append a character. -/
def push (s : Content) (c : Char) : Content :=
  match s.high with
  | none => { s with reversed := s.reversed.map (c :: ·) }
  | some _ => ⟨none, none⟩

/-- Give up the wait for the second half of a pair. -/
def settle (s : Content) : Content :=
  match s.high with
  | none => s
  | some _ => ⟨none, none⟩

/-- Append an escaped code unit. -/
def pushUnit (s : Content) (unit : Nat) : Content :=
  let isLow := 0xDC00 ≤ unit && unit ≤ 0xDFFF
  match s.high with
  | some high =>
    if isLow then
      { reversed := s.reversed.map
          (Char.ofNat (0x10000 + (high - 0xD800) * 0x400 + (unit - 0xDC00)) :: ·)
        high := none }
    else ⟨none, none⟩
  | none =>
    if isLow then ⟨none, none⟩
    else if 0xD800 ≤ unit ∧ unit ≤ 0xDBFF then { s with high := some unit }
    else { s with reversed := s.reversed.map (Char.ofNat unit :: ·) }

/-- The text of a finished string. -/
def finish (s : Content) : Option String :=
  s.settle.reversed.map fun cs => String.ofList cs.reverse

/-- The breach of a string that ends too early. -/
def cut (s : Content) : Breach :=
  .text (if s.reversed.isNone then .malformed else .ended) .ended

end Content

/-- A string with a character or an escape that cannot stand in one. -/
def badText : Token := .broken (.text .malformed .malformed)

/-- The character that an escape with one letter stands for. -/
def unescape? (letter : Char) : Option Char :=
  match letter with
  | '"' => some '"'
  | '\\' => some '\\'
  | '/' => some '/'
  | 'b' => some '\x08'
  | 'f' => some '\x0c'
  | 'n' => some '\n'
  | 'r' => some '\r'
  | 't' => some '\t'
  | _ => none

/-- The value of a hexadecimal digit. -/
def hexValue? (c : Char) : Option Nat :=
  if c.isDigit then some (c.toNat - '0'.toNat)
  else if 'a' ≤ c ∧ c ≤ 'f' then some (c.toNat - 'a'.toNat + 10)
  else if 'A' ≤ c ∧ c ≤ 'F' then some (c.toNat - 'A'.toNat + 10)
  else none

/-! ## The whole text -/

/-- What the characters read last belong to. -/
inductive Mode where
  | between
  /-- A word, the letters it still needs, and its token. -/
  | word (next : Char) (missing : List Char) (token : Token)
  /-- A number with the characters so far, last one first. -/
  | number (part : NumberPart) (reversed : List Char)
  | string (part : StringPart) (content : Content)
  /-- After a broken token. -/
  | stuck
  deriving DecidableEq, Repr

/-- Whether a character may stand between tokens. -/
def isSpace (c : Char) : Bool :=
  c = ' ' || c = '\n' || c = '\t' || c = '\r'

/-- What a character between two tokens begins. -/
def start (c : Char) : List Token × Mode :=
  if isSpace c then ([], .between)
  else if c = '-' then ([], .number .sign [c])
  else if c = '0' then ([], .number .zero [c])
  else if c.isDigit then ([], .number .whole [c])
  else
    match c with
    | '[' => ([.openArray], .between)
    | ']' => ([.closeArray], .between)
    | '\x7b' => ([.openObject], .between)
    | '\x7d' => ([.closeObject], .between)
    | ',' => ([.comma], .between)
    | ':' => ([.colon], .between)
    | '"' => ([], .string .plain .empty)
    | 'n' => ([], .word 'u' ['l', 'l'] .null)
    | 't' => ([], .word 'r' ['u', 'e'] (.bool true))
    | 'f' => ([], .word 'a' ['l', 's', 'e'] (.bool false))
    | _ => ([.broken .stray], .stuck)

/-- What a character inside a string does. -/
def stepString (part : StringPart) (s : Content) (c : Char) : List Token × Mode :=
  match part with
  | .plain =>
    if c = '"' then ([.string s.finish], .between)
    else if c = '\\' then ([], .string .backslash s)
    else if c.toNat < 0x20 then ([badText], .stuck)
    else ([], .string .plain (s.push c))
  | .backslash =>
    if c = 'u' then ([], .string (.code 0 (some 0)) s)
    else
      match unescape? c with
      | some c => ([], .string .plain (s.push c))
      | none => ([badText], .stuck)
  | .code bytes value =>
    let bytes := bytes + c.utf8Size
    let value := value.bind fun n => (hexValue? c).map (16 * n + ·)
    if bytes < 4 then ([], .string (.code bytes value) s)
    else
      match value with
      | some unit => ([], .string .plain (s.pushUnit unit))
      | none => ([badText], .stuck)

/-- The tokens that a character completes, and what it belongs to. -/
def Mode.step (mode : Mode) (c : Char) : List Token × Mode :=
  match mode with
  | .between => start c
  | .word next missing token =>
    if c = next then
      match missing with
      | [] => ([token], .between)
      | next :: missing => ([], .word next missing token)
    else ([.broken (.scalar .malformed .malformed)], .stuck)
  | .number part reversed =>
    match part.next? c with
    | some part => ([], .number part (c :: reversed))
    | none =>
      if part.endsBefore c then
        let (tokens, mode) := start c
        (.number reversed.reverse :: tokens, mode)
      else ([.broken (.scalar .malformed .malformed)], .stuck)
  | .string part content => stepString part content c
  | .stuck => ([], .stuck)

/-- The token that the end of the text completes or cuts. A number that breaks
off is a different fault when it is skipped. -/
def Mode.finish : Mode → List Token
  | .between => []
  | .word _ _ _ => [.broken (.scalar .ended .ended)]
  | .number part reversed =>
    if part.isComplete then [.number reversed.reverse]
    else [.broken (.scalar .ended .malformed)]
  | .string _ content => [.broken content.cut]
  | .stuck => []

/-- The tokens of a text that is read in a mode, after tokens already found,
which are given last one first. -/
def Mode.run (mode : Mode) (found : List Token) : List Char → List Token
  | [] => found.reverseAux mode.finish
  | c :: rest =>
    let (tokens, mode) := mode.step c
    mode.run (tokens.reverseAux found) rest

/-- Tokens found already stay in front. -/
theorem Mode.run_eq_append (mode : Mode) (found : List Token) (text : List Char) :
    mode.run found text = found.reverse ++ mode.run [] text := by
  induction text generalizing mode found with
  | nil => simp [Mode.run]
  | cons c rest ih =>
    simp only [Mode.run]
    rw [ih, ih _ ((mode.step c).1.reverseAux [])]
    simp

/-- The tokens of a text. -/
def tokens (text : List Char) : List Token :=
  Mode.between.run [] text

end CharLcd.Json
