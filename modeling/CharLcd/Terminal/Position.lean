/-!
# Positions on the terminal

- `Position`: a column and a row, both counted from zero.
- `Size`: the size of a terminal; `Size.contains` says which positions are on it.
-/

namespace CharLcd.Terminal

/-- A position on the terminal. -/
@[ext] structure Position where
  column : Nat
  row : Nat
  deriving DecidableEq, Repr

/-- The size of a terminal, in characters. -/
structure Size where
  width : Nat
  height : Nat
  deriving DecidableEq, Repr

/-- Whether a position is on a terminal. -/
def Size.contains (s : Size) (p : Position) : Bool :=
  p.column < s.width && p.row < s.height

end CharLcd.Terminal
