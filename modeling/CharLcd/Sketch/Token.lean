import CharLcd.Json.Token
import CharLcd.Options

/-!
# Tokens of sketches

The text of a sketch is cut into tokens from left to right, one character at a
time. Space, line ends and comments only separate tokens. A text with anything
that sketches do not use has no tokens.

- `Token`: the tokens.
- `literal?`: a number as it is spelled.
- `Mode.step`, `Mode.finish`: what a character, or the end of the text, does.
- `tokens?`: the tokens of a text.
-/

namespace CharLcd.Sketch

/-- The tokens of a sketch. -/
inductive Token where
  /-- A keyword or a name, with the object that it belongs to. -/
  | word (text : String)
  /-- A decimal constant. -/
  | number (n : Nat)
  /-- A constant in hexadecimal or binary. -/
  | byte (format : NumberFormat) (value : Nat)
  | char (c : Char)
  /-- A bracket, a separator or an operator. -/
  | mark (text : String)
  /-- The inclusion of a library header. -/
  | header (file : String)
  deriving DecidableEq, Repr

/-! ## Words and numbers -/

/-- Whether a character may stand in a word or a number. -/
def isWordChar (c : Char) : Bool := c.isAlphanum || c = '_' || c = '.'

/-- The value of digits in a base. -/
def digitsValue? (base : Nat) (digits : List Char) : Option Nat :=
  digits.foldlM (fun n c => do
    let digit ← Json.hexValue? c
    if digit < base then return base * n + digit else none) 0

/-- The number that a spelling stands for. A spelling that begins with a zero is
not decimal. -/
def literal? (spelling : List Char) : Option Token :=
  match spelling with
  | ['0'] => some (.number 0)
  | '0' :: 'x' :: digit :: digits => (digitsValue? 16 (digit :: digits)).map (.byte .hex)
  | '0' :: 'b' :: digit :: digits => (digitsValue? 2 (digit :: digits)).map (.byte .binary)
  | '0' :: _ => none
  | digits => (digitsValue? 10 digits).map .number

/-- The token of a word or a number. -/
def wordToken? (spelling : List Char) : Option Token :=
  if spelling.head?.any Char.isDigit then literal? spelling
  else some (.word (String.ofList spelling))

/-! ## Marks -/

/-- Brackets and separators. -/
def isPunctuation (c : Char) : Bool := c ∈ ['(', ')', '[', ']', '\x7b', '\x7d', ';', ',']

/-- The characters of operators. -/
def isOperatorChar (c : Char) : Bool := c ∈ ['+', '-', '%', '<', '=', '!']

/-- The operators that sketches use. -/
def operators : List String := ["+", "-", "%", "<", "==", "!=", "=", "+=", "++"]

/-- The token of an operator. -/
def operatorToken? (spelling : List Char) : Option Token :=
  if String.ofList spelling ∈ operators then some (.mark (String.ofList spelling)) else none

/-! ## Header files -/

/-- The token of a line that begins with a hash: the inclusion of a file. -/
def directiveToken? (line : List Char) : Option Token :=
  let opening := "include <".toList
  if line.take opening.length = opening ∧ line.getLast? = some '>' then
    some (.header (String.ofList (line.drop opening.length).dropLast))
  else none

/-! ## The whole text -/

/-- What the characters read last belong to. Spellings are given last character
first. -/
inductive Mode where
  | between
  | word (reversed : List Char)
  | operator (reversed : List Char)
  /-- After the first of the two slashes of a comment. -/
  | slash
  | comment
  /-- After a quote mark. -/
  | quote
  /-- After a quote mark and a character. -/
  | quoted (c : Char)
  /-- On a line that begins with a hash. -/
  | directive (reversed : List Char)
  deriving DecidableEq, Repr

/-- What a character between two tokens begins. -/
def start (c : Char) : Option (List Token × Mode) :=
  if c = ' ' ∨ c = '\n' then some ([], .between)
  else if isWordChar c then some ([], .word [c])
  else if isPunctuation c then some ([.mark c.toString], .between)
  else if isOperatorChar c then some ([], .operator [c])
  else if c = '/' then some ([], .slash)
  else if c = '\'' then some ([], .quote)
  else if c = '#' then some ([], .directive [])
  else none

/-- The tokens that a character completes, and what it belongs to. -/
def Mode.step (mode : Mode) (c : Char) : Option (List Token × Mode) :=
  match mode with
  | .between => start c
  | .word reversed =>
    if isWordChar c then some ([], .word (c :: reversed))
    else do
      let (tokens, mode) ← start c
      return ((← wordToken? reversed.reverse) :: tokens, mode)
  | .operator reversed =>
    if isOperatorChar c then some ([], .operator (c :: reversed))
    else do
      let (tokens, mode) ← start c
      return ((← operatorToken? reversed.reverse) :: tokens, mode)
  | .slash => if c = '/' then some ([], .comment) else none
  | .comment => some ([], if c = '\n' then .between else .comment)
  | .quote => if c = '\'' ∨ c = '\\' ∨ c = '\n' then none else some ([], .quoted c)
  | .quoted character => if c = '\'' then some ([.char character], .between) else none
  | .directive reversed =>
    if c = '\n' then do return ([← directiveToken? reversed.reverse], .between)
    else some ([], .directive (c :: reversed))

/-- The tokens that the end of the text completes. -/
def Mode.finish : Mode → Option (List Token)
  | .between | .comment => some []
  | .word reversed => do return [← wordToken? reversed.reverse]
  | .operator reversed => do return [← operatorToken? reversed.reverse]
  | .directive reversed => do return [← directiveToken? reversed.reverse]
  | .slash | .quote | .quoted _ => none

/-- The tokens of a text that is read in a mode. -/
def Mode.run (mode : Mode) : List Char → Option (List Token)
  | [] => mode.finish
  | c :: rest => do
    let (tokens, mode) ← mode.step c
    return tokens ++ (← mode.run rest)

/-- The tokens of a text. -/
def tokens? (text : String) : Option (List Token) := Mode.between.run text.toList

end CharLcd.Sketch
