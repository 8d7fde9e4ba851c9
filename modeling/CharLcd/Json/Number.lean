import CharLcd.Decimal.Shortest

/-!
# Numbers in JSON texts

A number is written as an optional sign, digits, a fraction and an exponent. It
stands for an integer of at most 64 bits or for a floating point number.

- `Number`: the two kinds of value.
- `Number.ofSpelling?`: the value of a number's spelling; `none` when it is too
  large for a floating point number.
- `Number.text`: a value as messages show it.
-/

namespace CharLcd.Json

/-- What the spelling of a number stands for. -/
inductive Number where
  | integer (n : Int)
  | float (x : Float)

/-- The digits at the start of a text, and what follows them. -/
def spanDigits (s : List Char) : List Nat × List Char :=
  ((s.takeWhile Char.isDigit).map fun c => c.toNat - '0'.toNat, s.dropWhile Char.isDigit)

/-! ## Significand and exponent -/

/-- A number `significand * 10 ^ exponent`, as gathered from its digits. -/
structure Scientific where
  significand : Nat
  exponent : Int
  deriving DecidableEq, Repr

/-- Largest significand that is gathered exactly. -/
def largestSignificand : Nat := UInt64.size - 1

/-- The highest of 64 bits, which holds the sign. -/
def signBit : Nat := UInt64.size / 2

/-- Gather the digits of the whole part. From the first digit on that would make
the significand too large, digits only count in the exponent. -/
def gatherWhole (significand : Nat) : List Nat → Scientific
  | [] => ⟨significand, 0⟩
  | d :: rest =>
    if largestSignificand < 10 * significand + d then ⟨significand, (rest.length : Int) + 1⟩
    else gatherWhole (10 * significand + d) rest

/-- Gather the digits of the fraction. From the first digit on that would make
the significand too large, digits are dropped. -/
def gatherFraction (s : Scientific) : List Nat → Scientific
  | [] => s
  | d :: rest =>
    if largestSignificand < 10 * s.significand + d then s
    else gatherFraction ⟨10 * s.significand + d, s.exponent - 1⟩ rest

/-- Largest exponent that can be written out. -/
def largestExponent : Nat := UInt32.size / 2 - 1

/-! ## Floating point values -/

/-- The largest power of ten in the range of the floating point format. -/
def largestPower : Nat := 308

/-- `10 ^ n` as a floating point number. -/
def powerOfTen (n : Nat) : Float := OfScientific.ofScientific 1 false n

/-- Scale a number by a power of ten, in steps of at most `10 ^ 308`; `none`
when the result is too large. -/
def scale (x : Float) (exponent : Int) : Option Float :=
  if exponent.natAbs ≤ largestPower then
    if 0 ≤ exponent then
      let y := x * powerOfTen exponent.natAbs
      if y.isInf then none else some y
    else some (x / powerOfTen exponent.natAbs)
  else if x == 0 then some x
  else if 0 ≤ exponent then none
  else scale (x / powerOfTen largestPower) (exponent + largestPower)
  termination_by exponent.natAbs
  decreasing_by
    simp only [largestPower] at *
    omega

/-- A floating point number with a sign. -/
def signed (negative : Bool) (x : Float) : Float := if negative then -x else x

/-- The floating point number of a significand and an exponent. -/
def Scientific.toFloat? (negative : Bool) (s : Scientific) : Option Float :=
  (scale (Float.ofNat s.significand) s.exponent).map (signed negative)

/-! ## The value of a spelling -/

/-- The exponent written after the letter `e`: its sign and its size. -/
def spanExponent (s : List Char) : Bool × List Nat :=
  match s with
  | '-' :: rest => (true, (spanDigits rest).1)
  | '+' :: rest => (false, (spanDigits rest).1)
  | _ => (false, (spanDigits s).1)

/-- Apply a written exponent. One that is too large to be written out makes every
number zero or too large, and zero stays zero. -/
def applyExponent (negative : Bool) (s : Scientific) (down : Bool) (digits : List Nat) :
    Option Float :=
  let size := digits.foldl (fun n d => 10 * n + d) 0
  if size ≤ largestExponent then
    let size : Int := if down then -size else size
    let exponent := max (-(largestExponent : Int) - 1) (min largestExponent (s.exponent + size))
    Scientific.toFloat? negative { s with exponent }
  else if s.significand = 0 ∨ down then some (signed negative 0)
  else none

/-- The value of a whole number that was gathered exactly. Zero with a sign, and
whatever does not fit into 64 bits, is a floating point number. -/
def ofWhole (negative : Bool) (significand : Nat) : Number :=
  if !negative then .integer significand
  else if 0 < significand ∧ significand ≤ signBit then .integer (-(significand : Int))
  else .float (-(Float.ofNat significand))

/-- The value of a number's spelling; `none` when it is too large. -/
def Number.ofSpelling? (s : List Char) : Option Number :=
  let negative := s.head? = some '-'
  let (whole, rest) := spanDigits (if negative then s.tail else s)
  let gathered := gatherWhole 0 whole
  let (fraction, rest) :=
    match rest with
    | '.' :: rest => spanDigits rest
    | _ => ([], rest)
  let scientific := gatherFraction gathered fraction
  match rest with
  | _ :: exponent =>
    let (down, digits) := spanExponent exponent
    (applyExponent negative scientific down digits).map .float
  | [] =>
    if fraction.isEmpty && gathered.exponent = 0 then some (ofWhole negative gathered.significand)
    else (scientific.toFloat? negative).map .float

/-! ## Text -/

/-- Least and largest power of ten of the first digit that are written without
an exponent. -/
def plainRange : Int × Int := (-5, 15)

/-- A positive number as text. Numbers of moderate size are written out, whole
ones with `.0`; others have one digit before the point and an exponent with its
sign. -/
def decimalText (d : Decimal) : List Char :=
  let digits := d.digits
  let leading := d.leading
  if plainRange.1 ≤ leading ∧ leading ≤ plainRange.2 then
    if leading < 0 then
      ['0', '.'] ++ List.replicate (-leading - 1).toNat '0' ++ digits
    else
      let whole := leading.toNat + 1
      let fraction := digits.drop whole
      (digits.take whole).rightpad whole '0' ++ ['.'] ++
        (if fraction.isEmpty then ['0'] else fraction)
  else
    digits.take 1 ++ (if digits.length = 1 then [] else '.' :: digits.drop 1) ++
      ['e', if leading < 0 then '-' else '+'] ++ Nat.toDigits 10 leading.natAbs

/-- A floating point number as text. -/
def floatText (x : Float) : String :=
  let bits := x.toBits.toNat
  let sign := if signBit ≤ bits then ['-'] else []
  match Decimal.Binary.ofBits? (bits % signBit) with
  | some b => String.ofList (sign ++ decimalText (Decimal.shortest b))
  | none => String.ofList (sign ++ ['0', '.', '0'])

/-- A number as text. -/
def Number.text : Number → String
  | integer n => toString n
  | float x => floatText x

end CharLcd.Json
