/-!
# JSON trees

- `Json.Tree`: the trees that this library writes.
- `Json.Layout`: the space between the parts of a text; `compact` and `pretty`.
- `Json.Tree.write`: the text of a tree.
-/

namespace CharLcd.Json

/-- A JSON value without fractions or negative numbers. -/
inductive Tree where
  | null
  | bool (b : Bool)
  | number (n : Nat)
  | string (s : String)
  | array (items : List Tree)
  | object (members : List (String × Tree))

/-! ## Strings -/

/-- A character inside a string. The quote mark, the backslash and the controls
are escaped. -/
def escape (c : Char) : List Char :=
  match c with
  | '"' => ['\\', '"']
  | '\\' => ['\\', '\\']
  | '\x08' => ['\\', 'b']
  | '\x0c' => ['\\', 'f']
  | '\n' => ['\\', 'n']
  | '\r' => ['\\', 'r']
  | '\t' => ['\\', 't']
  | c =>
    if c.toNat < 0x20 then
      ['\\', 'u', '0', '0', Nat.digitChar (c.toNat / 16), Nat.digitChar (c.toNat % 16)]
    else [c]

/-- A string in quotes. -/
def writeString (s : String) : List Char :=
  '"' :: s.toList.flatMap escape ++ ['"']

/-! ## Trees -/

/-- The space that a text has besides what it must have. -/
structure Layout where
  /-- Before an item, and before a closing bracket, at a depth. -/
  margin : (depth : Nat) → List Char
  /-- After a colon. -/
  gap : List Char

namespace Layout

/-- No space at all. -/
def compact : Layout := ⟨fun _ => [], []⟩

/-- Every item on a line of its own, indented by two spaces for each level. -/
def pretty : Layout := ⟨fun depth => '\n' :: List.replicate (2 * depth) ' ', [' ']⟩

end Layout

mutual

/-- The text of a tree at a depth. -/
def Tree.write (l : Layout) (depth : Nat) : Tree → List Char
  | .null => ['n', 'u', 'l', 'l']
  | .bool true => ['t', 'r', 'u', 'e']
  | .bool false => ['f', 'a', 'l', 's', 'e']
  | .number n => Nat.toDigits 10 n
  | .string s => writeString s
  | .array [] => ['[', ']']
  | .array (item :: items) =>
    '[' :: l.margin (depth + 1) ++ item.write l (depth + 1) ++ writeItems l (depth + 1) items ++
      l.margin depth ++ [']']
  | .object [] => ['\x7b', '\x7d']
  | .object ((key, value) :: members) =>
    '\x7b' :: l.margin (depth + 1) ++ writeString key ++ ':' :: l.gap ++
      value.write l (depth + 1) ++ writeMembers l (depth + 1) members ++ l.margin depth ++ ['\x7d']

/-- The further items of an array, each after a comma. -/
def writeItems (l : Layout) (depth : Nat) : List Tree → List Char
  | [] => []
  | item :: items => ',' :: l.margin depth ++ item.write l depth ++ writeItems l depth items

/-- The further members of an object, each after a comma. -/
def writeMembers (l : Layout) (depth : Nat) : List (String × Tree) → List Char
  | [] => []
  | (key, value) :: members =>
    ',' :: l.margin depth ++ writeString key ++ ':' :: l.gap ++ value.write l depth ++
      writeMembers l depth members

end

/-- The text of a tree. -/
def Tree.text (l : Layout) (t : Tree) : String :=
  String.ofList (t.write l 0)

end CharLcd.Json
