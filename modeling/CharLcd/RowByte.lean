import CharLcd.Bitmap
import CharLcd.Options

/-!
# Row bytes

A row of five pixels is stored in the low five bits of a byte, the leftmost
pixel in bit 4.

- `Row.byte`: the byte of a row.
- `byteText`: a byte as a sketch literal, `0x1F` or `0b00011111`.
- `Bitmap.bytes`: the eight bytes of a bitmap, top row first.
-/

namespace CharLcd

/-- The byte of a row: the pixels are its binary digits, leftmost first. -/
def Row.byte (row : Row) : Nat :=
  row.toList.foldl (fun byte on => 2 * byte + on.toNat) 0

/-- The eight row bytes of a bitmap, top row first. -/
def Bitmap.bytes (b : Bitmap) : List Nat :=
  b.lines.toList.map Row.byte

@[simp] theorem Bitmap.length_bytes (b : Bitmap) : b.bytes.length = glyphRows := by
  simp [Bitmap.bytes]

/-- The last `width` digits of a number in base two or sixteen, most significant first. -/
def digits (base : Nat) : (width : Nat) → Nat → List Char
  | 0, _ => []
  | width + 1, n => digits base width (n / base) ++ [(Nat.digitChar (n % base)).toUpper]

@[simp] theorem length_digits (base width n : Nat) : (digits base width n).length = width := by
  induction width generalizing n with
  | zero => rfl
  | succ width ih => simp [digits, ih]

/-- A byte as a sketch literal. -/
def byteText (format : NumberFormat) (byte : Nat) : String :=
  match format with
  | .hex => "0x" ++ String.ofList (digits 16 2 byte)
  | .binary => "0b" ++ String.ofList (digits 2 8 byte)

end CharLcd
