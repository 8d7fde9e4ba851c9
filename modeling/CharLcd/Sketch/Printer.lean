import CharLcd.Sketch.Syntax
import CharLcd.RowByte
import CharLcd.Display

/-!
# Printing sketches

A sketch is printed as lines, each indented by two spaces for every block it
stands in.

- `Line`: a line's depth and text.
- `Stmt.lines`, `Item.lines`: the lines of a statement and of an item; a block
  is printed statement by statement (`lines_block`).
- `Program.lines` / `Program.text`: the sketch as lines and as one text;
  `Program.lines_setup_loop` is about a sketch that ends with `setup` and `loop`.
-/

namespace CharLcd.Sketch

/-- One line of a sketch: how many blocks it stands in, and what it says. -/
structure Line where
  depth : Nat
  text : String
  deriving DecidableEq, Repr

/-- The line as printed; an empty line has no indentation. -/
def Line.render (l : Line) : String :=
  if l.text.isEmpty then "" else String.ofList (List.replicate (2 * l.depth) ' ') ++ l.text

/-- The sign of an operator. -/
def Op.sign : Op → String
  | .add => "+"
  | .sub => "-"
  | .mod => "%"
  | .lt => "<"
  | .eq => "=="
  | .ne => "!="

/-- The text of an expression. -/
def Expr.text : Expr → String
  | .number n => toString n
  | .byte format value => byteText format value
  | .char c => String.ofList ['\'', c, '\'']
  | .name x => x
  | .entry array line column => array ++ "[" ++ line.text ++ "][" ++ column.text ++ "]"
  | .binary op left right => left.text ++ " " ++ op.sign ++ " " ++ right.text
  | .parens e => "(" ++ e.text ++ ")"
  | .call function argument => function ++ "(" ++ argument.text ++ ")"

/-- Texts separated by commas. -/
def commas (texts : List String) : String :=
  ", ".intercalate texts

/-- The lines of an array's initial values: all but the last end in a comma. -/
def valueLines (depth : Nat) : List Expr → List Line
  | [] => []
  | [e] => [⟨depth, e.text⟩]
  | e :: rest => ⟨depth, e.text ++ ","⟩ :: valueLines depth rest

/-- The lines of a statement that stands in `depth` blocks. -/
def Stmt.lines (depth : Nat) : Stmt → List Line
  | .skip => []
  | .seq first rest => first.lines depth ++ rest.lines depth
  | .blank => [⟨0, ""⟩]
  | .comment text => [⟨depth, "// " ++ text⟩]
  | .declare type name value => [⟨depth, type ++ " " ++ name ++ " = " ++ value.text ++ ";"⟩]
  | .table name values =>
    ⟨depth, "byte " ++ name ++ "[" ++ toString values.length ++ "] = \x7b"⟩ ::
      valueLines (depth + 1) values ++ [⟨depth, "\x7d;"⟩]
  | .assign name value => [⟨depth, name ++ " = " ++ value.text ++ ";"⟩]
  | .increase name value => [⟨depth, name ++ " += " ++ value.text ++ ";"⟩]
  | .store array line column value =>
    [⟨depth, (Expr.entry array line column).text ++ " = " ++ value.text ++ ";"⟩]
  | .call function arguments remark =>
    [⟨depth, function ++ "(" ++ commas (arguments.map Expr.text) ++ ");" ++
      (remark.map (" // " ++ ·)).getD ""⟩]
  | .ifThen condition body =>
    ⟨depth, "if (" ++ condition.text ++ ") \x7b"⟩ :: body.lines (depth + 1) ++ [⟨depth, "\x7d"⟩]
  | .ifElse condition yes no =>
    ⟨depth, "if (" ++ condition.text ++ ") \x7b"⟩ :: yes.lines (depth + 1) ++
      ⟨depth, "\x7d else \x7b"⟩ :: no.lines (depth + 1) ++ [⟨depth, "\x7d"⟩]
  | .countTo index bound body =>
    ⟨depth, "for (int " ++ index ++ " = 0; " ++ index ++ " < " ++ bound.text ++ "; " ++
      index ++ "++) \x7b"⟩ :: body.lines (depth + 1) ++ [⟨depth, "\x7d"⟩]
  | .ret value => [⟨depth, "return " ++ value.text ++ ";"⟩]

/-- A list of statements is printed one after the other. -/
@[simp] theorem Stmt.lines_block (depth : Nat) (body : List Stmt) :
    (Stmt.block body).lines depth = body.flatMap (Stmt.lines depth) := by
  induction body with
  | nil => rfl
  | cons s body ih => rw [Stmt.block_cons, Stmt.lines, ih, List.flatMap_cons]

/-- The lines of a top-level item. -/
def Item.lines : Item → List Line
  | .blank => [⟨0, ""⟩]
  | .comment text => [⟨0, "// " ++ text⟩]
  | .header file => [⟨0, "#include <" ++ file ++ ">"⟩]
  | .object type name arguments =>
    [⟨0, type ++ " " ++ name ++ "(" ++ commas (arguments.map Expr.text) ++ ");"⟩]
  | .constant type name value =>
    [⟨0, "const " ++ type ++ " " ++ name ++ " = " ++ toString value ++ ";"⟩]
  | .variable type name value => [⟨0, type ++ " " ++ name ++ " = " ++ toString value ++ ";"⟩]
  | .frame name => [⟨0, "byte " ++ name ++ "[" ++ toString lcdLines ++ "][LCD_COLUMNS];"⟩]
  | .function result name parameters body =>
    ⟨0, result ++ " " ++ name ++ "(" ++ commas (parameters.map fun p => p.1 ++ " " ++ p.2) ++
      ") \x7b"⟩ :: body.lines 1 ++ [⟨0, "\x7d"⟩]

namespace Program

/-- The lines of a sketch. -/
def lines (p : Program) : List Line :=
  p.flatMap Item.lines

/-- The lines of a sketch that ends with the two functions of every sketch. -/
theorem lines_setup_loop (items : Program) (setup loop : Stmt) :
    lines (items ++ [.function "void" "setup" [] setup, .blank, .function "void" "loop" [] loop]) =
      items.lines ++
        ⟨0, "void setup() \x7b"⟩ :: (setup.lines 1 ++ [⟨0, "\x7d"⟩, ⟨0, ""⟩]) ++
        ⟨0, "void loop() \x7b"⟩ :: (loop.lines 1 ++ [⟨0, "\x7d"⟩]) := by
  have hsetup : (Item.function "void" "setup" [] setup).lines =
      ⟨0, "void setup() \x7b"⟩ :: setup.lines 1 ++ [⟨0, "\x7d"⟩] := rfl
  have hloop : (Item.function "void" "loop" [] loop).lines =
      ⟨0, "void loop() \x7b"⟩ :: loop.lines 1 ++ [⟨0, "\x7d"⟩] := rfl
  have hspace : Item.blank.lines = [⟨0, ""⟩] := rfl
  rw [lines, List.flatMap_append]
  simp only [List.flatMap_cons, List.flatMap_nil, hsetup, hloop, hspace, lines, List.append_assoc,
    List.cons_append, List.nil_append, List.append_nil]

/-- The text of a sketch: every line ends in a newline. -/
def text (p : Program) : String :=
  String.join (p.lines.map fun l => l.render ++ "\n")

end Program

end CharLcd.Sketch
