import CharLcd.Json.Grammar
import CharLcd.Proofs.Digits
import Mathlib.Data.List.TakeWhile

/-!
# What numerals stand for

- `gatherWhole_eq`, `gatherWhole_of_exponent`: digits are gathered exactly as long as their value
  fits into 64 bits, and otherwise they leave an exponent.
- `Number.ofSpelling?_digits`: digits stand for their decimal value; `Number.ofSpelling?_toDigits`
  for those of a natural number.
- `Numeral.digits_of_natural`: no other numeral stands for a natural number, and digits stand for
  nothing else.
-/

namespace CharLcd.Json

/-! ## Gathering digits -/

/-- Further digits make a number no smaller. -/
theorem le_ofDigitChars (digits : List Char) (n : Nat) : n ≤ Nat.ofDigitChars 10 digits n := by
  induction digits generalizing n with
  | nil => exact Nat.le_of_eq Nat.ofDigitChars_nil.symm
  | cons c digits ih =>
    rw [Nat.ofDigitChars_cons]
    have hrest := ih (10 * n + (c.toNat - '0'.toNat))
    omega

/-- A number that is not too large is gathered exactly. -/
theorem gatherWhole_eq (digits : List Char) (n : Nat)
    (h : Nat.ofDigitChars 10 digits n ≤ largestSignificand) :
    gatherWhole n (digits.map fun c => c.toNat - '0'.toNat) =
      ⟨Nat.ofDigitChars 10 digits n, 0⟩ := by
  induction digits generalizing n with
  | nil => rw [Nat.ofDigitChars_nil]; rfl
  | cons c digits ih =>
    rw [Nat.ofDigitChars_cons] at h ⊢
    -- the number only grows, so no digit before the end makes it too large
    have hle := le_ofDigitChars digits (10 * n + (c.toNat - '0'.toNat))
    rw [List.map_cons, gatherWhole, if_neg (by omega)]
    exact ih _ h

/-- A number that leaves no exponent has been gathered exactly. -/
theorem gatherWhole_of_exponent (digits : List Char) (n : Nat)
    (h : (gatherWhole n (digits.map fun c => c.toNat - '0'.toNat)).exponent = 0) :
    (gatherWhole n (digits.map fun c => c.toNat - '0'.toNat)).significand =
      Nat.ofDigitChars 10 digits n := by
  induction digits generalizing n with
  | nil => rw [Nat.ofDigitChars_nil]; rfl
  | cons c digits ih =>
    rw [List.map_cons, gatherWhole] at h ⊢
    split at h
    next =>
      have hpos : ((digits.map fun c => c.toNat - '0'.toNat).length : Int) + 1 = 0 := h
      omega
    next hfits =>
      rw [if_neg hfits, Nat.ofDigitChars_cons]
      exact ih _ h

/-! ## Signs, fractions and exponents -/

theorem spanDigits_append {digits rest : List Char} (h : ∀ c ∈ digits, c.isDigit = true)
    (hrest : ∀ c ∈ rest.head?, c.isDigit = false) :
    spanDigits (digits ++ rest) = (digits.map fun c => c.toNat - '0'.toNat, rest) := by
  have hstop : rest.takeWhile Char.isDigit = [] ∧ rest.dropWhile Char.isDigit = rest := by
    cases rest with
    | nil => exact ⟨rfl, rfl⟩
    | cons c rest =>
      have hc := ne_true_of_eq_false (hrest c rfl)
      exact ⟨List.takeWhile_cons_of_neg hc, List.dropWhile_cons_of_neg hc⟩
  rw [spanDigits, List.takeWhile_append_of_pos h, List.dropWhile_append_of_pos h, hstop.1, hstop.2,
    List.append_nil]

theorem spanDigits_eq {digits : List Char} (h : ∀ c ∈ digits, c.isDigit = true) :
    spanDigits digits = (digits.map fun c => c.toNat - '0'.toNat, []) := by
  have hnil : ∀ c ∈ ([] : List Char).head?, c.isDigit = false := nofun
  have hspan := spanDigits_append h hnil
  rwa [List.append_nil] at hspan

theorem head?_ne_minus {digits : List Char} (h : ∀ c ∈ digits, c.isDigit = true) :
    ¬ digits.head? = some '-' := by
  intro hhead
  have hdigit := h _ (List.mem_of_mem_head? hhead)
  revert hdigit
  decide

/-- Where no digits come and nothing else does, nothing is left. -/
theorem eq_nil_of_spanDigits {cs : List Char} (h : spanDigits cs = ([], [])) : cs = [] := by
  have hdigits : cs.takeWhile Char.isDigit = [] := List.map_eq_nil_iff.mp (congrArg Prod.fst h)
  have hrest : cs.dropWhile Char.isDigit = [] := congrArg Prod.snd h
  have happend := List.takeWhile_append_dropWhile (p := Char.isDigit) (l := cs)
  rw [hdigits, hrest] at happend
  exact happend.symm

/-- Digits end where a fraction or an exponent begins. -/
theorem head?_not_digit {fraction exponent : List Char} (hfraction : Fraction fraction)
    (hexponent : Exponent exponent) : ∀ c ∈ (fraction ++ exponent).head?, c.isDigit = false := by
  intro c hc
  cases hfraction with
  | none =>
    cases hexponent with
    | none => cases hc
    | digits hmark =>
      obtain rfl := Option.some.inj hc
      rcases hmark with rfl | rfl <;> rfl
  | digits =>
    obtain rfl := Option.some.inj hc
    rfl

/-- Something follows the point of a fraction, and an exponent begins with no point. -/
theorem fraction_append_exponent {fraction exponent : List Char} (hfraction : Fraction fraction)
    (hexponent : Exponent exponent) (h : fraction ++ exponent = [] ∨ fraction ++ exponent = ['.']) :
    fraction = [] ∧ exponent = [] := by
  cases hfraction with
  | none =>
    cases hexponent with
    | none => exact ⟨rfl, rfl⟩
    | digits hmark => rcases hmark with rfl | rfl <;> simp at h
  | digits hdigits => simp [hdigits.ne_nil] at h

namespace Number

/-- Digits stand for their value when it fits into 64 bits. -/
theorem ofSpelling?_digits {digits : List Char} (hdigits : ∀ c ∈ digits, c.isDigit = true)
    (h : Nat.ofDigitChars 10 digits 0 ≤ largestSignificand) :
    ofSpelling? digits = some (.integer (Nat.ofDigitChars 10 digits 0)) := by
  -- neither sign, fraction nor exponent: the number is what the digits gather
  simp only [ofSpelling?, head?_ne_minus hdigits, decide_false, if_false, spanDigits_eq hdigits,
    gatherWhole_eq digits 0 h, ofWhole]
  rfl

/-- The value of a decimal number that fits into 64 bits. -/
theorem ofSpelling?_toDigits {n : Nat} (h : n ≤ largestSignificand) :
    ofSpelling? (Nat.toDigits 10 n) = some (.integer n) := by
  have hdigits : ∀ c ∈ Nat.toDigits 10 n, c.isDigit = true := fun _ => isDigit_of_mem_toDigits
  have hvalue := ofSpelling?_digits hdigits (by rwa [Nat.ofDigitChars_ten_toDigits])
  rwa [Nat.ofDigitChars_ten_toDigits] at hvalue

/-- What stands for an integer is a sign and digits that are gathered exactly. -/
theorem ofSpelling?_eq_integer {cs : List Char} {n : Int}
    (h : ofSpelling? cs = some (.integer n)) :
    ∃ whole rest, spanDigits (if cs.head? = some '-' then cs.tail else cs) = (whole, rest) ∧
      (rest = [] ∨ rest = ['.']) ∧ (gatherWhole 0 whole).exponent = 0 ∧
        ofWhole (cs.head? = some '-') (gatherWhole 0 whole).significand = .integer n := by
  cases hspan : spanDigits (if cs.head? = some '-' then cs.tail else cs) with
  | mk whole rest =>
  refine ⟨whole, rest, rfl, ?_⟩
  -- a number with a fraction or an exponent is a floating point number
  have hfloat : ∀ x : Option Float, x.map float ≠ some (integer n) := by
    intro x hx
    obtain ⟨y, -, hy⟩ := Option.map_eq_some_iff.mp hx
    cases hy
  simp only [ofSpelling?, hspan] at h
  split at h
  next => exact absurd h (hfloat _)
  next hnone =>
    rcases ite_eq_iff.mp h with ⟨hexact, hvalue⟩ | ⟨-, hx⟩
    · rw [Bool.and_eq_true, List.isEmpty_iff, decide_eq_true_eq] at hexact
      refine ⟨?_, hexact.2, Option.some.inj hvalue⟩
      have hboth : _ = (([], []) : List Nat × List Char) := Prod.ext hexact.1 hnone
      split at hboth
      next => exact .inr (congrArg _ (eq_nil_of_spanDigits hboth))
      next => exact .inl (congrArg Prod.snd hboth)
    · exact absurd hx (hfloat _)

/-- A numeral with a sign stands for no natural number. -/
theorem lt_zero_of_ofSpelling?_minus {cs : List Char} {n : Int}
    (h : ofSpelling? ('-' :: cs) = some (.integer n)) : n < 0 := by
  obtain ⟨whole, rest, -, -, -, hvalue⟩ := ofSpelling?_eq_integer h
  simp only [ofWhole, List.head?_cons, decide_true, Bool.not_true] at hvalue
  split at hvalue
  · contradiction
  · split at hvalue
    next hpos =>
      obtain rfl := integer.inj hvalue
      omega
    next => cases hvalue

end Number

/-- A numeral that stands for a natural number consists of its digits. -/
theorem Numeral.digits_of_natural {cs : List Char} (h : Numeral cs) {n : Int} (hn : 0 ≤ n)
    (hread : Number.ofSpelling? cs = some (.integer n)) :
    (∀ c ∈ cs, c.isDigit = true) ∧ n = Nat.ofDigitChars 10 cs 0 := by
  cases h with
  | @parts sign whole fraction exponent hsign hwhole _ hfraction hexponent =>
  rcases hsign with rfl | rfl
  · rw [List.nil_append] at hread ⊢
    obtain ⟨ds, rest, hspan, hrest, hexact, hvalue⟩ := Number.ofSpelling?_eq_integer hread
    have hminus : ¬ (whole ++ (fraction ++ exponent)).head? = some '-' := by
      rw [List.head?_append, Option.or_of_isSome (List.isSome_head?.mpr hwhole.ne_nil)]
      exact head?_ne_minus hwhole.isDigit
    rw [if_neg hminus, spanDigits_append hwhole.isDigit (head?_not_digit hfraction hexponent)]
      at hspan
    -- the digits end with the whole part, so nothing may follow that
    obtain ⟨rfl, rfl⟩ := Prod.mk.inj hspan
    obtain ⟨rfl, rfl⟩ := fraction_append_exponent hfraction hexponent hrest
    rw [List.append_nil, List.append_nil] at hvalue ⊢
    rw [gatherWhole_of_exponent whole 0 hexact, decide_eq_false (head?_ne_minus hwhole.isDigit)]
      at hvalue
    exact ⟨hwhole.isDigit, (Number.integer.inj hvalue).symm⟩
  · exact absurd (Number.lt_zero_of_ofSpelling?_minus hread) (Int.not_lt.mpr hn)

end CharLcd.Json
