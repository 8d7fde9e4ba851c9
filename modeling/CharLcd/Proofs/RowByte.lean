import CharLcd.RowByte
import Mathlib.Algebra.Group.Nat.Defs

/-!
# Row bytes and their pixels

- `Row.byte_lt`: five bits hold the byte of a row.
- `Row.testBit_byte`: the bits of a row byte are the pixels, so the byte gives the
  row (`Row.byte_injective`).
- `Bitmap.bytes_injective`: the row bytes of a bitmap give the bitmap.
-/

namespace CharLcd

/-- Digits put after a number below `n + 1` give one below `(n + 1) * 2 ^ length`. -/
theorem foldl_digits_lt (pixels : List Bool) (n : Nat) :
    pixels.foldl (fun byte on => 2 * byte + on.toNat) n < (n + 1) * 2 ^ pixels.length := by
  induction pixels generalizing n with
  | nil => simp
  | cons on rest ih =>
    have step : 2 * n + on.toNat + 1 ≤ (n + 1) * 2 := by
      cases on <;> simp <;> omega
    calc rest.foldl _ (2 * n + on.toNat)
      _ < (2 * n + on.toNat + 1) * 2 ^ rest.length := ih _
      _ ≤ (n + 1) * 2 * 2 ^ rest.length := Nat.mul_le_mul_right _ step
      _ = (n + 1) * 2 ^ (on :: rest).length := by
        rw [List.length_cons, Nat.pow_succ, Nat.mul_assoc, Nat.mul_comm 2]

/-- Five pixels take five bits. -/
theorem Row.byte_lt (row : Row) : row.byte < 2 ^ glyphColumns := by
  have h := foldl_digits_lt row.toList 0
  rw [Vector.length_toList] at h
  simpa [Row.byte] using h

/-- Digits put after a number do not disturb those before. -/
theorem foldl_digits (pixels : List Bool) (n : Nat) :
    pixels.foldl (fun byte on => 2 * byte + on.toNat) n =
      2 ^ pixels.length * n + pixels.foldl (fun byte on => 2 * byte + on.toNat) 0 := by
  induction pixels generalizing n with
  | nil => simp
  | cons on rest ih =>
    rw [List.foldl_cons, List.foldl_cons, ih, ih (2 * 0 + on.toNat), List.length_cons, Nat.pow_succ]
    have hsplit : 2 ^ rest.length * (2 * n + on.toNat) =
        2 ^ rest.length * 2 * n + 2 ^ rest.length * (2 * 0 + on.toNat) := by
      rw [Nat.mul_add, Nat.mul_assoc, Nat.mul_zero, Nat.zero_add]
    omega

/-- The digits of the number that some pixels make are the pixels. -/
theorem testBit_foldl_digits (pixels : List Bool) (i : Nat) (h : i < pixels.length) :
    (pixels.foldl (fun (byte : Nat) on => 2 * byte + on.toNat) 0).testBit (pixels.length - 1 - i) =
      pixels[i] := by
  induction pixels generalizing i with
  | nil => exact absurd h (Nat.not_lt_zero i)
  | cons on rest ih =>
    -- the pixels to the right of `on` make a number below the weight of `on`
    have hlt := foldl_digits_lt rest 0
    rw [Nat.zero_add, Nat.one_mul] at hlt
    rw [List.foldl_cons, foldl_digits, Nat.testBit_two_pow_mul_add _ hlt]
    cases i with
    | zero =>
      rw [if_neg (by simp)]
      cases on <;> simp
    | succ i =>
      have hi : i < rest.length := by simpa using h
      rw [if_pos (by rw [List.length_cons]; omega), List.getElem_cons_succ, ← ih i hi]
      congr 1
      rw [List.length_cons]
      omega

namespace Row

/-- The bits of a row byte are the pixels, the leftmost one in bit 4. -/
theorem testBit_byte (row : Row) (pixel : Fin glyphColumns) :
    row.byte.testBit (glyphColumns - 1 - pixel) = row[pixel] := by
  have h := testBit_foldl_digits row.toList pixel (by rw [row.length_toList]; exact pixel.isLt)
  simp only [Vector.length_toList, Vector.getElem_toList] at h
  exact h

theorem byte_injective {row row' : Row} (h : row.byte = row'.byte) : row = row' := by
  apply Vector.ext
  intro i hi
  have hpixel := testBit_byte row ⟨i, hi⟩
  rw [h, testBit_byte row' ⟨i, hi⟩] at hpixel
  exact hpixel.symm

end Row

namespace Bitmap

theorem getElem?_bytes (b : Bitmap) (row : Fin glyphRows) :
    b.bytes[row.val]? = some (Row.byte b.lines[row]) := by
  simp [bytes]

/-- A bitmap is given by its row bytes. -/
theorem bytes_injective {b b' : Bitmap} (h : b.bytes = b'.bytes) : b = b' := by
  apply Grid.ext_get
  intro row column
  have hrow : Row.byte b.lines[row] = Row.byte b'.lines[row] := by
    have := getElem?_bytes b row
    rw [h, getElem?_bytes b' row] at this
    exact (Option.some.inj this).symm
  rw [Grid.get, Grid.get, Row.byte_injective hrow]

/-- The bits of the row bytes are the pixels. -/
theorem testBit_bytes (b : Bitmap) (row : Fin glyphRows) (pixel : Fin glyphColumns) :
    ((b.bytes[row.val]?).any fun byte : Nat => byte.testBit (glyphColumns - 1 - pixel)) =
      b.get row pixel := by
  rw [getElem?_bytes, Option.any_some]
  exact Row.testBit_byte _ _

end Bitmap

end CharLcd
