import CharLcd.Json.Token

/-!
# Digits

- `hexValue?_of_isDigit`, `hexValue?_digitChar`, `hexValue?_toUpper_digitChar`: the value of a
  digit, which takes one byte (`utf8Size_digitChar`).
- `head?_toDigits_ne`: a decimal number has no leading zero.
- `length_toString_mono`: a larger number has no fewer digits.
-/

namespace CharLcd

theorem hexValue?_of_isDigit {c : Char} (h : c.isDigit = true) :
    Json.hexValue? c = some (c.toNat - '0'.toNat) := by
  rw [Json.hexValue?, if_pos h]

theorem hexValue?_digitChar : ∀ n < 16, Json.hexValue? n.digitChar = some n := by
  decide

theorem hexValue?_toUpper_digitChar : ∀ n < 16, Json.hexValue? n.digitChar.toUpper = some n := by
  decide

theorem utf8Size_digitChar : ∀ n < 16, n.digitChar.utf8Size = 1 := by
  decide

theorem utf8Size_toUpper_digitChar : ∀ n < 16, n.digitChar.toUpper.utf8Size = 1 := by
  decide

theorem toNat_sub_lt_of_isDigit {c : Char} (h : c.isDigit = true) : c.toNat - '0'.toNat < 10 := by
  rw [Char.isDigit, Bool.and_eq_true, decide_eq_true_eq, decide_eq_true_eq] at h
  have hle : c.toNat ≤ 57 := UInt32.le_iff_toNat_le.mp h.2
  show c.toNat - 48 < 10
  omega

theorem digitChar_ne_zero : ∀ n < 10, n ≠ 0 → n.digitChar ≠ '0' := by
  decide

/-- Only zero begins with the digit zero. -/
theorem head?_toDigits_ne {n : Nat} (hn : n ≠ 0) : (Nat.toDigits 10 n).head? ≠ some '0' := by
  induction n using Nat.strongRecOn with
  | ind n ih =>
    rw [Nat.toDigits_eq_if (by decide)]
    split
    next hlt =>
      rw [List.head?_cons, ne_eq, Option.some.injEq]
      exact digitChar_ne_zero n hlt hn
    next hle =>
      have hrest := ih (n / 10) (by omega) (by omega)
      cases hdigits : Nat.toDigits 10 (n / 10) with
      | nil => exact absurd hdigits Nat.toDigits_ne_nil
      | cons c rest =>
        rw [hdigits] at hrest
        exact hrest

theorem isDigit_of_mem_toDigits {c : Char} {n : Nat} (h : c ∈ Nat.toDigits 10 n) :
    c.isDigit = true :=
  Nat.isDigit_of_mem_toDigits (by decide) (by decide) h

theorem length_toString_pos (n : Nat) : 0 < (toString n).length :=
  Nat.length_repr_pos

/-- A larger number has no fewer digits. -/
theorem length_toString_mono {n m : Nat} (h : n ≤ m) :
    (toString n).length ≤ (toString m).length := by
  have hm := (Nat.length_repr_le_iff (length_toString_pos m)).mp (Nat.le_refl _)
  exact (Nat.length_repr_le_iff (length_toString_pos m)).mpr (Nat.lt_of_le_of_lt h hm)

end CharLcd
