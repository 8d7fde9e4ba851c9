import CharLcd.Terminal.Event

/-!
# Reading terminal input

The characters that a terminal sends for keys and the mouse, as events.

- `decode`: the first event of what was sent, and the rest.
- `decodeAll`: all events of what was sent.
-/

namespace CharLcd.Terminal.Input

/-- A key without modifiers. -/
def plain (code : KeyCode) : Event := .key { code }

/-- The modifiers with a number, as terminals send it: one more than a bit mask. -/
def modifiersOf (n : Nat) : Modifiers :=
  let bits := n - 1
  { shift := bits % 2 = 1, alt := bits / 2 % 2 = 1, ctrl := bits / 4 % 2 = 1 }

/-- The key of a character on its own. -/
def keyOf (c : Char) : Key :=
  if c = '\r' ∨ c = '\n' then { code := .enter }
  else if c = '\t' then { code := .tab }
  else if c = '\x7f' then { code := .backspace }
  else if c = '\x1b' then { code := .esc }
  else if c = '\x00' then { code := .char ' ', modifiers := { ctrl := true } }
  else if c.toNat ≤ 26 then
    { code := .char (Char.ofNat (c.toNat + 'a'.toNat - 1)), modifiers := { ctrl := true } }
  else { code := .char c, modifiers := { shift := c.isUpper } }

/-- The key that the last letter of a sequence names. -/
def letterKey? : Char → Option KeyCode
  | 'A' => some .up
  | 'B' => some .down
  | 'C' => some .right
  | 'D' => some .left
  | 'H' => some .home
  | 'F' => some .lineEnd
  | _ => none

/-- The key that the number of a sequence names. -/
def numberKey? : Nat → Option KeyCode
  | 1 | 7 => some .home
  | 2 => some .insert
  | 3 => some .delete
  | 4 | 8 => some .lineEnd
  | 5 => some .pageUp
  | 6 => some .pageDown
  | _ => none

/-- The button with a number. -/
def buttonOf : Nat → Button
  | 1 => .middle
  | 2 => .right
  | _ => .left

/-- A report of the mouse: its code, the position counted from one, and whether a
button was released. -/
def mouseOf (code column row : Nat) (released : Bool) : Event :=
  let button := buttonOf (code % 4)
  let action : MouseAction :=
    if code / 64 % 2 = 1 then
      match code % 4 with
      | 0 => .scrollUp
      | 1 => .scrollDown
      | 2 => .scrollLeft
      | _ => .scrollRight
    else if code / 32 % 2 = 1 then (if code % 4 = 3 then .moved else .drag button)
    else if released then .up button
    else .down button
  .mouse { action, column := column - 1, row := row - 1 }

/-- The event of a sequence: its numbers and its last character. -/
def sequence? (isMouse : Bool) (numbers : List Nat) (final : Char) : Option Event :=
  match isMouse, numbers, final with
  | true, [code, column, row], 'M' => some (mouseOf code column row false)
  | true, [code, column, row], 'm' => some (mouseOf code column row true)
  | false, _, 'Z' => some (.key { code := .backTab, modifiers := { shift := true } })
  | false, [n], '~' => (numberKey? n).map plain
  | false, [n, m], '~' =>
    (numberKey? n).map fun code => .key { code, modifiers := modifiersOf m }
  | false, [_, m], c => (letterKey? c).map fun code => .key { code, modifiers := modifiersOf m }
  | false, _, c => (letterKey? c).map plain
  | _, _, _ => none

/-- Whether a character belongs to the numbers of a sequence. -/
def isParameter (c : Char) : Bool := c.isDigit || c = ';'

/-- The numbers in a text, separated by semicolons. -/
def numbersOf (s : List Char) : List Nat :=
  ((String.ofList s).splitOn ";").map fun n => n.toNat?.getD 0

/-- The first event of what was sent, and the rest. Sequences that mean nothing
here are left out. -/
def decode : List Char → Option (Option Event × List Char)
  | [] => none
  | '\x1b' :: '[' :: rest =>
    let isMouse := rest.head? = some '<'
    let body := if isMouse then rest.tail else rest
    match body.dropWhile isParameter with
    | final :: rest => some (sequence? isMouse (numbersOf (body.takeWhile isParameter)) final, rest)
    | [] => some (none, [])
  | '\x1b' :: 'O' :: c :: rest => some ((letterKey? c).map plain, rest)
  | '\x1b' :: c :: rest =>
    let k := keyOf c
    some (some (.key { k with modifiers := { k.modifiers with alt := true } }), rest)
  | c :: rest => some (some (.key (keyOf c)), rest)

/-- All events of what was sent; `fuel` bounds their number. -/
def decodeAll : (fuel : Nat) → List Char → List Event
  | 0, _ => []
  | fuel + 1, s =>
    match decode s with
    | none => []
    | some (some e, rest) => e :: decodeAll fuel rest
    | some (none, rest) => decodeAll fuel rest

/-- The events of what was sent. -/
def events (s : String) : List Event := decodeAll s.length s.toList

end CharLcd.Terminal.Input
