import CharLcd.Terminal.Event

/-!
# Key bindings

A key binding names a key, after `Alt-` or `Ctrl-` if that must be held down:
`q`, `F5`, `PageUp`, `Ctrl-s`.

- `Binding`: a key, and the modifier that must be held down.
- `Binding.ofString?`: the binding that a text names.
- `Binding.accepts`: whether a key press is the one that is bound.
-/

namespace CharLcd

open Terminal

/-- A modifier that a binding can ask for. -/
inductive Held where
  | alt
  | ctrl
  deriving DecidableEq, Repr

/-- A key, and the modifier that must be held down. -/
structure Binding where
  held : Option Held
  code : KeyCode
  deriving DecidableEq, Repr

/-- The keys with names of their own. -/
def namedKeys : List (String × KeyCode) := [
  ("Right", .right), ("Left", .left), ("Up", .up), ("Down", .down),
  ("Enter", .enter), ("Esc", .esc), ("Space", .char ' '),
  ("Tab", .tab), ("BackTab", .backTab), ("Backspace", .backspace),
  ("Home", .home), ("End", .lineEnd), ("PageUp", .pageUp), ("PageDown", .pageDown)]

/-- The number that a text of digits stands for, in base ten. -/
def decimalValue (digits : List Char) : Nat :=
  digits.foldl (fun n c => 10 * n + (c.toNat - '0'.toNat)) 0

/-- A number of at most 255, which may have a plus sign and zeros before it. -/
def byteOfDecimal? (s : List Char) : Option Nat :=
  let digits := if s.head? = some '+' then s.tail else s
  if digits ≠ [] ∧ digits.all Char.isDigit ∧ decimalValue digits < 256 then
    some (decimalValue digits)
  else none

/-- The function key that a text names, `F` and a number. -/
def functionKey? : List Char → Option KeyCode
  | 'F' :: rest => (byteOfDecimal? rest).map .function
  | _ => none

/-- The key that stands for the only character of a text. -/
def characterKey? : List Char → Option KeyCode
  | [c] => some (.char c)
  | _ => none

/-- The key that a text names. -/
def keyOfName? (name : List Char) : Option KeyCode :=
  ((namedKeys.lookup (String.ofList name)).or (functionKey? name)).or (characterKey? name)

namespace Binding

/-- The modifier that a text begins with, and the name of the key. -/
def split : List Char → Option Held × List Char
  | 'A' :: 'l' :: 't' :: '-' :: name => (some .alt, name)
  | 'C' :: 't' :: 'r' :: 'l' :: '-' :: name => (some .ctrl, name)
  | name => (none, name)

/-- The binding that a text names. -/
def ofString? (s : String) : Option Binding :=
  let (held, name) := split s.toList
  (keyOfName? name).map (⟨held, ·⟩)

/-- Whether the modifiers of a key press are right. Without a modifier to be held
down, neither `Alt` nor `Ctrl` may be. -/
def allows (held : Option Held) (m : Modifiers) : Bool :=
  match held with
  | some .alt => m.alt
  | some .ctrl => m.ctrl
  | none => !m.alt && !m.ctrl

/-- Whether a key press is the one that is bound. -/
def accepts (b : Binding) (k : Key) : Bool :=
  allows b.held k.modifiers && k.code = b.code

end Binding

/-- Whether a key press is the one that a text names. A text that names no key
is never pressed. -/
def bindingAccepts (s : String) (k : Key) : Bool :=
  match Binding.ofString? s with
  | some b => b.accepts k
  | none => false

theorem bindingAccepts_iff {s : String} {k : Key} :
    bindingAccepts s k = true ↔ ∃ b, Binding.ofString? s = some b ∧ b.accepts k = true := by
  rw [bindingAccepts]
  cases Binding.ofString? s <;> simp

end CharLcd
