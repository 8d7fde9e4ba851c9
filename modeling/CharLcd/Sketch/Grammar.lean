import CharLcd.Display
import CharLcd.Sketch.Syntax
import CharLcd.Sketch.Token

/-!
# The grammar of sketches

A sketch is read from its tokens by recursive descent: every rule of the grammar
is a function that takes the tokens of one phrase from the front. What is read
has no empty lines, comments and remarks, and every body is one block.

- `Parser`: such functions; `take`, `expect`, `commaSeparated` are the simple ones.
- `expression`, `operand`, `climb`: expressions, by the precedence of operators.
- `statement`, `statements`: statements and bodies.
- `item`: top-level items.
- `Program.ofText?`: the sketch in a text.
-/

namespace CharLcd.Sketch

namespace Grammar

/-- A function that reads a phrase from the front of some tokens: the phrase and
the other tokens. -/
abbrev Parser := StateT (List Token) Option

/-- Take the next token. -/
def take : Parser Token
  | [] => none
  | t :: rest => some (t, rest)

/-- The next token, which stays where it is. -/
def peek : Parser (Option Token) := fun tokens => some (tokens.head?, tokens)

/-- Take a token that must be there. -/
def expect (t : Token) : Parser Unit := do
  if (← take) = t then return () else failure

/-- Take a mark that must be there. -/
def mark (text : String) : Parser Unit := expect (.mark text)

/-- Take a name. -/
def name : Parser String := do
  match ← take with
  | .word x => return x
  | _ => failure

/-- Take a decimal constant. -/
def number : Parser Nat := do
  match ← take with
  | .number n => return n
  | _ => failure

/-- Read as much as the tokens at hand may hold. -/
def unbounded {α : Type} (p : (fuel : Nat) → Parser α) : Parser α :=
  fun tokens => p (2 * tokens.length) tokens

/-- One or more phrases with commas between them. -/
def commaSeparated {α : Type} (phrase : Parser α) : (fuel : Nat) → Parser (List α)
  | 0 => failure
  | fuel + 1 => do
    let a ← phrase
    if (← peek) = some (.mark ",") then
      mark ","
      return a :: (← commaSeparated phrase fuel)
    else return [a]

/-- Phrases with commas between them, up to a closing mark. -/
def listUpTo {α : Type} (close : String) (phrase : Parser α) : Parser (List α) := do
  if (← peek) = some (.mark close) then
    mark close
    return []
  else
    let phrases ← unbounded (commaSeparated phrase)
    mark close
    return phrases

/-! ## Expressions -/

/-- The operator of a token. -/
def operator? : Token → Option Op
  | .mark "+" => some .add
  | .mark "-" => some .sub
  | .mark "%" => some .mod
  | .mark "<" => some .lt
  | .mark "==" => some .eq
  | .mark "!=" => some .ne
  | _ => none

/-- How tightly an operator binds. -/
def level : Op → Nat
  | .eq | .ne => 0
  | .lt => 1
  | .add | .sub => 2
  | .mod => 3

mutual

/-- An expression whose operators bind at least as tightly as a level. -/
def expression : (fuel least : Nat) → Parser Expr
  | 0, _ => failure
  | fuel + 1, least => do climb fuel least (← operand fuel)

/-- What stands between operators. -/
def operand : (fuel : Nat) → Parser Expr
  | 0 => failure
  | fuel + 1 => do
    match ← take with
    | .number n => return .number n
    | .byte format value => return .byte format value
    | .char c => return .char c
    | .mark "(" =>
      let e ← expression fuel 0
      mark ")"
      return .parens e
    | .word x =>
      let next ← peek
      if next = some (.mark "(") then
        mark "("
        let argument ← expression fuel 0
        mark ")"
        return .call x argument
      else if next = some (.mark "[") then
        mark "["
        let line ← expression fuel 0
        mark "]"
        mark "["
        let column ← expression fuel 0
        mark "]"
        return .entry x line column
      else return .name x
    | _ => failure

/-- Go on after an operand with the operators that bind at least as tightly as a
level. Operators that bind alike are taken from left to right. -/
def climb : (fuel least : Nat) → Expr → Parser Expr
  | 0, _, left => return left
  | fuel + 1, least, left => do
    match (← peek).bind operator? with
    | some op =>
      if least ≤ level op then
        let _ ← take
        let right ← expression fuel (level op + 1)
        climb fuel least (.binary op left right)
      else return left
    | none => return left

end

/-- A whole expression. -/
def wholeExpression : Parser Expr := unbounded fun fuel => expression fuel 0

/-! ## Types -/

/-- The name of a type of numbers, if there is one. -/
def numberType? : Parser (Option String) := do
  let next ← peek
  if next = some (.word "int") then
    expect (.word "int")
    return some "int"
  else if next = some (.word "byte") then
    expect (.word "byte")
    return some "byte"
  else if next = some (.word "unsigned") then
    expect (.word "unsigned")
    expect (.word "long")
    return some "unsigned long"
  else return none

/-- The name of a type of numbers. -/
def numberType : Parser String := do
  match ← numberType? with
  | some type => return type
  | none => failure

/-! ## Statements -/

/-- After the type `byte` and a name: a table with its values, or a number. -/
def declaration (type x : String) : Parser Stmt := do
  if (← peek) = some (.mark "[") then
    mark "["
    let length ← number
    mark "]"
    mark "="
    mark "\x7b"
    let values ← listUpTo "\x7d" wholeExpression
    mark ";"
    if type = "byte" ∧ length = values.length then return .table x values else failure
  else
    mark "="
    let value ← wholeExpression
    mark ";"
    return .declare type x value

/-- A statement that begins with a name. -/
def named (x : String) : Parser Stmt := do
  match ← take with
  | .mark "=" =>
    let value ← wholeExpression
    mark ";"
    return .assign x value
  | .mark "+=" =>
    let value ← wholeExpression
    mark ";"
    return .increase x value
  | .mark "[" =>
    let line ← wholeExpression
    mark "]"
    mark "["
    let column ← wholeExpression
    mark "]"
    mark "="
    let value ← wholeExpression
    mark ";"
    return .store x line column value
  | .mark "(" =>
    let arguments ← listUpTo ")" wholeExpression
    mark ";"
    return .call x arguments none
  | _ => failure

/-- The head of a counting loop after its keyword: the variable, which counts
from zero one by one, and the bound. -/
def loopHead : Parser (String × Expr) := do
  mark "("
  expect (.word "int")
  let index ← name
  mark "="
  expect (.number 0)
  mark ";"
  expect (.word index)
  mark "<"
  let bound ← unbounded fun fuel => expression fuel (level .lt + 1)
  mark ";"
  expect (.word index)
  mark "++"
  mark ")"
  return (index, bound)

mutual

/-- A statement. -/
def statement : (fuel : Nat) → Parser Stmt
  | 0 => failure
  | fuel + 1 => do
    match ← numberType? with
    | some type => declaration type (← name)
    | none =>
      let x ← name
      if x = "if" then
        mark "("
        let condition ← wholeExpression
        mark ")"
        let yes ← body fuel
        if (← peek) = some (.word "else") then
          expect (.word "else")
          return .ifElse condition yes (← body fuel)
        else return .ifThen condition yes
      else if x = "for" then
        let (index, bound) ← loopHead
        return .countTo index bound (← body fuel)
      else if x = "return" then
        let value ← wholeExpression
        mark ";"
        return .ret value
      else named x

/-- Statements up to a closing brace. -/
def statements : (fuel : Nat) → Parser (List Stmt)
  | 0 => failure
  | fuel + 1 => do
    if (← peek) = some (.mark "\x7d") then return []
    else return (← statement fuel) :: (← statements fuel)

/-- Statements in braces. -/
def body : (fuel : Nat) → Parser Stmt
  | 0 => failure
  | fuel + 1 => do
    mark "\x7b"
    let stmts ← statements fuel
    mark "\x7d"
    return .block stmts

end

/-! ## Items -/

/-- A parameter of a function. -/
def parameter : Parser (String × String) := do
  return (← numberType, ← name)

/-- A function, after its result type and its name. -/
def function (result x : String) : Parser Item := do
  mark "("
  let parameters ← listUpTo ")" parameter
  return .function result x parameters (← unbounded body)

/-- What follows a type of numbers and a name: a variable, a frame array or a function. -/
def definition (type x : String) : Parser Item := do
  match ← peek with
  | some (.mark "=") =>
    mark "="
    let value ← number
    mark ";"
    return .variable type x value
  | some (.mark "[") =>
    mark "["
    expect (.number lcdLines)
    mark "]"
    mark "["
    expect (.word "LCD_COLUMNS")
    mark "]"
    mark ";"
    if type = "byte" then return .frame x else failure
  | _ => function type x

/-- A top-level item. -/
def item : Parser Item := do
  match ← numberType? with
  | some type => definition type (← name)
  | none =>
    match ← take with
    | .header file => return .header file
    | .word first =>
      if first = "const" then
        let type ← numberType
        let x ← name
        mark "="
        let value ← number
        mark ";"
        return .constant type x value
      else if first = "void" then function "void" (← name)
      else
        let x ← name
        mark "("
        let arguments ← listUpTo ")" wholeExpression
        mark ";"
        return .object first x arguments
    | _ => failure

/-- Items up to the end. -/
def items : (fuel : Nat) → Parser Program
  | 0 => failure
  | fuel + 1 => do
    if (← peek) = none then return []
    else return (← item) :: (← items fuel)

end Grammar

/-- The sketch in a text, if the text is one. -/
def Program.ofText? (text : String) : Option Program := do
  let tokens ← tokens? text
  let (p, _) ← Grammar.items (tokens.length + 1) tokens
  return p

end CharLcd.Sketch
