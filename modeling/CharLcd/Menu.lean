import CharLcd.Terminal.Command

/-!
# Menu items

A menu item is a text in which keys stand in brackets: `[c]lear`.

- `Menu.Segment`: a key, a label between keys, or an unclosed rest.
- `Menu.segments`: the segments of an item.
- `Menu.draw`: the commands that print an item.
- `Menu.width`: how many columns an item takes.
-/

namespace CharLcd.Menu

open Terminal

/-- A part of a menu item. -/
inductive Segment where
  /-- Text outside brackets. -/
  | label (text : List Char)
  /-- A key with its brackets. -/
  | key (text : List Char)
  /-- A bracket that is never closed, and all that follows it. -/
  | unclosed (text : List Char)
  deriving DecidableEq, Repr

/-- The text of a segment. -/
def Segment.text : Segment → List Char
  | label text => text
  | key text => text
  | unclosed text => text

/-- A label, unless it is empty; its characters are given last one first. -/
def labelOf : List Char → List Segment
  | [] => []
  | reversed => [.label reversed.reverse]

mutual

/-- The segments from a place outside brackets on, after the characters of a
label, which are given last one first. -/
def outside (reversed : List Char) : List Char → List Segment
  | [] => labelOf reversed
  | c :: rest =>
    if c = '[' then labelOf reversed ++ inside ['['] rest
    else outside (c :: reversed) rest

/-- The segments from a place inside a bracket on, after the bracket and the
characters that follow it, which are given last one first. -/
def inside (reversed : List Char) : List Char → List Segment
  | [] => [.unclosed reversed.reverse]
  | c :: rest =>
    if c = ']' then .key (']' :: reversed).reverse :: outside [] rest
    else inside (c :: reversed) rest

end

/-- The segments of an item. -/
def segments (item : String) : List Segment :=
  outside [] item.toList

/-- Print a segment. Keys are bold; labels are dim, or reversed when the item is
a switch that is on; a rest that is not closed is neither. -/
def Segment.draw (active : Bool) (s : Segment) : List Command :=
  let text := String.ofList s.text
  match s with
  | label _ => [.set (if active then .reverse else .dim), .print text, .reset]
  | key _ => [.set .bold, .print text, .reset]
  | unclosed _ => [.print text]

/-- Print an item. -/
def draw (item : String) (active : Bool) : List Command :=
  (segments item).flatMap (Segment.draw active)

/-- The columns that an item takes, counted in sixteen bits. -/
def width (item : String) : Nat :=
  item.length % UInt16.size

end CharLcd.Menu
