import CharLcd.Sketch.Syntax

/-!
# Plain sketches

A sketch without what only serves its readers: empty lines, comments and
remarks. What is left of a body is one block of statements.

- `Stmt.plain`, `Item.plain`, `Program.plain`: what is left.
-/

namespace CharLcd.Sketch

/-- The statements that are left of a statement. -/
def Stmt.plain : Stmt → List Stmt
  | .skip => []
  | .seq first rest => first.plain ++ rest.plain
  | .blank => []
  | .comment _ => []
  | .declare type name value => [.declare type name value]
  | .table name values => [.table name values]
  | .assign name value => [.assign name value]
  | .increase name value => [.increase name value]
  | .store array line column value => [.store array line column value]
  | .call function arguments _ => [.call function arguments none]
  | .ifThen condition body => [.ifThen condition (.block body.plain)]
  | .ifElse condition yes no => [.ifElse condition (.block yes.plain) (.block no.plain)]
  | .countTo index bound body => [.countTo index bound (.block body.plain)]
  | .ret value => [.ret value]

/-- A block is left of its statements one by one. -/
@[simp] theorem Stmt.plain_block (body : List Stmt) :
    (Stmt.block body).plain = body.flatMap Stmt.plain := by
  induction body with
  | nil => rfl
  | cons s body ih => rw [Stmt.block_cons, Stmt.plain, ih, List.flatMap_cons]

/-- The items that are left of an item. -/
def Item.plain : Item → List Item
  | .blank => []
  | .comment _ => []
  | .header file => [.header file]
  | .object type name arguments => [.object type name arguments]
  | .constant type name value => [.constant type name value]
  | .variable type name value => [.variable type name value]
  | .frame name => [.frame name]
  | .function result name parameters body =>
    [.function result name parameters (.block body.plain)]

/-- The sketch that is left of a sketch. -/
def Program.plain (p : Program) : Program := p.flatMap Item.plain

end CharLcd.Sketch
