import CharLcd.Options

/-!
# The language of sketches

The part of the board's programming language that a generated sketch uses:
integer expressions, structured statements, and top-level items.

- `Expr`, `Stmt`, `Item`: expressions, statements and top-level items.
- `Stmt.block`: a list of statements as one statement.
- `Program`: a sketch, the list of its items.
-/

namespace CharLcd.Sketch

/-- Binary operators. -/
inductive Op where
  | add
  | sub
  | mod
  | lt
  | eq
  | ne
  deriving DecidableEq, Repr

/-- Integer expressions. -/
inductive Expr where
  /-- A decimal constant. -/
  | number (n : Nat)
  /-- A byte constant in hexadecimal or binary. -/
  | byte (format : NumberFormat) (value : Nat)
  /-- A character constant. -/
  | char (c : Char)
  /-- A variable or a constant's name. -/
  | name (x : String)
  /-- An entry of a two-dimensional array. -/
  | entry (array : String) (line column : Expr)
  | binary (op : Op) (left right : Expr)
  | parens (e : Expr)
  /-- A function call or a conversion such as `byte(3)`. -/
  | call (function : String) (argument : Expr)
  deriving DecidableEq, Repr

/-- Statements. -/
inductive Stmt where
  | skip
  | seq (first rest : Stmt)
  /-- An empty line. -/
  | blank
  | comment (text : String)
  /-- `type name = value;` -/
  | declare (type name : String) (value : Expr)
  /-- A local byte array with its initial values, one on each line. -/
  | table (name : String) (values : List Expr)
  /-- `name = value;` -/
  | assign (name : String) (value : Expr)
  /-- `name += value;` -/
  | increase (name : String) (value : Expr)
  /-- `array[line][column] = value;` -/
  | store (array : String) (line column value : Expr)
  /-- A call, with an optional remark at the end of its line. -/
  | call (function : String) (arguments : List Expr) (remark : Option String)
  | ifThen (condition : Expr) (body : Stmt)
  | ifElse (condition : Expr) (yes no : Stmt)
  /-- Run the body with `index` counting from 0 up to, but not including, `bound`. -/
  | countTo (index : String) (bound : Expr) (body : Stmt)
  | ret (value : Expr)
  deriving DecidableEq, Repr

/-- Run a list of statements in order. -/
def Stmt.block (body : List Stmt) : Stmt :=
  body.foldr .seq .skip

@[simp] theorem Stmt.block_nil : Stmt.block [] = .skip := rfl

@[simp] theorem Stmt.block_cons (s : Stmt) (body : List Stmt) :
    Stmt.block (s :: body) = .seq s (.block body) := rfl

/-- Top-level items. -/
inductive Item where
  /-- An empty line. -/
  | blank
  | comment (text : String)
  /-- The inclusion of a library header. -/
  | header (file : String)
  /-- A library object with its constructor's arguments. -/
  | object (type name : String) (arguments : List Expr)
  | constant (type name : String) (value : Nat)
  | variable (type name : String) (value : Nat)
  /-- A byte array with a slot for every position of the display. -/
  | frame (name : String)
  /-- A function; each parameter is a type and a name. -/
  | function (result name : String) (parameters : List (String × String)) (body : Stmt)
  deriving DecidableEq, Repr

/-- A sketch: its top-level items in order. -/
abbrev Program := List Item

end CharLcd.Sketch
