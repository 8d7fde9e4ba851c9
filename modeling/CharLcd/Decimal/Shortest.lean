/-!
# Shortest decimals

The decimal with the fewest digits among those that a binary floating point
number is the nearest one to.

- `Binary`: a positive floating point number, `mantissa * 2 ^ exponent`.
- `Interval`: such a number with the reals that round to it.
- `Decimal`: a number `coefficient * 10 ^ unit`.
- `shortest`: the shortest decimal of a number, and of several the closest one.
-/

namespace CharLcd

/-- The number `coefficient * 10 ^ unit`. -/
structure Decimal where
  coefficient : Nat
  unit : Int
  deriving DecidableEq, Repr

namespace Decimal

/-- The positive number `mantissa * 2 ^ exponent` of a floating point format. -/
structure Binary where
  mantissa : Nat
  exponent : Int
  /-- The numbers below lie twice as dense as those above. -/
  atEdge : Bool
  deriving DecidableEq, Repr

/-- The leading bit of a double's mantissa, which its bit pattern leaves out. -/
def hiddenBit : Nat := 0x10000000000000

/-- The positive double with a bit pattern; `none` for zero, infinities, what is
not a number, and everything with a sign. -/
def Binary.ofBits? (bits : Nat) : Option Binary :=
  let fraction := bits % hiddenBit
  let level : Nat := bits / hiddenBit
  if bits = 0 ∨ 2047 ≤ level then none
  else if level = 0 then some ⟨fraction, -1074, false⟩
  else some ⟨hiddenBit + fraction, (level : Int) - 1075, fraction = 0 && 1 < level⟩

/-- A number and the ends of the interval of reals that round to it, as
fractions with a common denominator. -/
structure Interval where
  low : Nat
  value : Nat
  high : Nat
  denominator : Nat
  /-- Whether the ends themselves round to the number. -/
  closed : Bool
  deriving DecidableEq, Repr

/-- The reals that round to a number: up to half the distance to each neighbour. -/
def Binary.interval (b : Binary) : Interval :=
  let quarter := Nat.pow 2 (b.exponent - 2).toNat
  { low := (4 * b.mantissa - (if b.atEdge then 1 else 2)) * quarter
    value := 4 * b.mantissa * quarter
    high := (4 * b.mantissa + 2) * quarter
    denominator := Nat.pow 2 (2 - b.exponent).toNat
    closed := b.mantissa % 2 = 0 }

namespace Interval

/-- The interval measured in units of `10 ^ unit`. -/
def inUnits (unit : Int) (i : Interval) : Interval :=
  let up := Nat.pow 10 (-unit).toNat
  { i with
    low := i.low * up
    value := i.value * up
    high := i.high * up
    denominator := i.denominator * Nat.pow 10 unit.toNat }

/-- Whether a whole number lies in the interval. -/
def contains (i : Interval) (n : Nat) : Bool :=
  let n := n * i.denominator
  if i.closed then i.low ≤ n && n ≤ i.high else i.low < n && n < i.high

/-- The whole number closest to the value, among its two neighbours that lie in
the interval; of two equally close ones the even one. -/
def nearest? (i : Interval) : Option Nat :=
  let below := i.value / i.denominator
  let above := below + 1
  match i.contains below, i.contains above with
  | true, false => some below
  | false, true => some above
  | false, false => none
  | true, true =>
    let twice := 2 * (i.value % i.denominator)
    if twice < i.denominator ∨ (twice = i.denominator ∧ below % 2 = 0) then some below
    else some above

/-- The least `e` from `start` on with `value < 10 ^ e`, among the next `fuel` ones. -/
def magnitude (i : Interval) : (fuel : Nat) → (start : Int) → Int
  | 0, e => e
  | fuel + 1, e =>
    if i.value * Nat.pow 10 (-e).toNat < i.denominator * Nat.pow 10 e.toNat then e
    else magnitude i fuel (e + 1)

/-- The first decimal in the interval when the unit takes the values `unit`,
`unit - 1`, … up to `fuel` of them. -/
def coarsest? (i : Interval) : (fuel : Nat) → (unit : Int) → Option Decimal
  | 0, _ => none
  | fuel + 1, unit =>
    match (i.inUnits unit).nearest? with
    | some n => some ⟨n, unit⟩
    | none => coarsest? i fuel (unit - 1)

end Interval

/-- Every double lies strictly between `10 ^ -bound` and `10 ^ bound`. -/
def bound : Nat := 330

/-- Seventeen digits are enough for every double. -/
def mostDigits : Nat := 17

/-- The shortest decimal that rounds to a number. -/
def shortest (b : Binary) : Decimal :=
  let i := b.interval
  (i.coarsest? mostDigits (i.magnitude (2 * bound) (-bound) - 1)).getD ⟨0, 0⟩

/-- The digits of the coefficient without the zeros at its end. -/
def digits (d : Decimal) : List Char :=
  ((Nat.toDigits 10 d.coefficient).reverse.dropWhile (· = '0')).reverse

/-- The power of ten that the first digit stands for. -/
def leading (d : Decimal) : Int :=
  (Nat.toDigits 10 d.coefficient).length + d.unit - 1

end Decimal

end CharLcd
