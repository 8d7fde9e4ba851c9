import CharLcd.Plan
import Mathlib.Data.Int.ModEq
import Mathlib.Data.Set.Function

/-!
# Scrolling translates the columns

A scrolled column is its column moved by the offset, up to whole turns of the display. A machine has
no exact integers to move it with: the column is a word of 64 bits and the offset a signed one, and
a remainder is taken of the offset before and of the column after.

- `Direction.moved`: the column moved by an offset, in exact integers; `val_scrollColumn` says that
  scrolling takes its remainder.
- `scrollColumn_scrollColumn`, `scrollColumn_toggle`: scrolling on, and back.
- `SignedWord.fit?`, `SignedWord.add?`, `SignedWord.sub?`: sums and differences of signed words,
  which give nothing on overflow; `SignedWord.remainder`: the remainder, which never overflows.
- `scrollColumn?`: the scrolled column in words; `scrollColumn?_eq_none_iff` says when there is
  none, and `toNat_scrollColumn?` that it is the exact one.
- `columns_translate`: all of this for the words.
-/

namespace CharLcd

/-! ## Exact columns -/

/-- A column moved by an offset. -/
def Direction.moved (direction : Direction) (column offset : Int) : Int :=
  match direction with
  | .left => column - offset
  | .right => column + offset

section

variable (direction : Direction) (column : Nat) (offset : Int)

theorem val_scrollColumn :
    (scrollColumn direction column offset : Int) = direction.moved column offset % lcdColumns := by
  cases direction <;> simp only [scrollColumn, Direction.moved, lcdColumns] <;> omega

/-- Only the remainders of the column and of the offset matter. -/
theorem moved_modEq {column column' offset offset' : Int}
    (hcolumn : column ≡ column' [ZMOD lcdColumns]) (hoffset : offset ≡ offset' [ZMOD lcdColumns]) :
    direction.moved column offset ≡ direction.moved column' offset' [ZMOD lcdColumns] := by
  cases direction with
  | left => exact hcolumn.sub hoffset
  | right => exact hcolumn.add hoffset

theorem scrollColumn_congr {column column' : Nat} {offset offset' : Int}
    (h : direction.moved column offset ≡ direction.moved column' offset' [ZMOD lcdColumns]) :
    scrollColumn direction column offset = scrollColumn direction column' offset' := by
  rw [← Int.natCast_inj, val_scrollColumn, val_scrollColumn]
  exact h

/-- Offsets add up. -/
theorem scrollColumn_scrollColumn (more : Int) :
    scrollColumn direction (scrollColumn direction column offset) more =
      scrollColumn direction column (offset + more) := by
  have hinner : (scrollColumn direction column offset : Int) ≡ direction.moved column offset
      [ZMOD lcdColumns] := by
    rw [val_scrollColumn]
    exact Int.mod_modEq _ _
  have hmoved : direction.moved (direction.moved column offset) more =
      direction.moved column (offset + more) := by
    cases direction with
    | left => exact Int.sub_sub _ _ _
    | right => exact Int.add_assoc _ _ _
  refine scrollColumn_congr direction ?_
  rw [← hmoved]
  exact moved_modEq direction hinner rfl

/-- Scrolling back by the same offset gives a column of the display again. -/
theorem scrollColumn_toggle {column : Nat} (h : column < lcdColumns) :
    scrollColumn direction.toggle (scrollColumn direction column offset) offset = column := by
  have hval := val_scrollColumn direction column offset
  have hback := val_scrollColumn direction.toggle (scrollColumn direction column offset) offset
  simp only [lcdColumns] at h hval hback ⊢
  cases direction <;> simp only [Direction.moved, Direction.toggle] at hval hback ⊢ <;> omega

end

/-! ## Signed words -/

namespace SignedWord

/-- The word of a number, if a signed word of 64 bits can hold it. -/
def fit? (n : Int) : Option Int64 :=
  if Int64.minValue.toInt ≤ n ∧ n ≤ Int64.maxValue.toInt then some (.ofInt n) else none

def add? (a b : Int64) : Option Int64 := fit? (a.toInt + b.toInt)

def sub? (a b : Int64) : Option Int64 := fit? (a.toInt - b.toInt)

/-- The remainder that is never negative. That of a negative word has its sign, and the divisor is
added to it. -/
def remainder (a m : Int64) : Int64 :=
  let r := a % m
  if r < 0 then r + m else r

theorem fit?_eq_some_iff {n : Int} {word : Int64} : fit? n = some word ↔ word.toInt = n := by
  rw [fit?, Option.ite_none_right_eq_some, Option.some.injEq, Int64.toInt_minValue,
    Int64.toInt_maxValue]
  constructor
  · rintro ⟨⟨hleast, hgreatest⟩, rfl⟩
    exact Int64.toInt_ofInt_of_le hleast (Int.lt_of_le_sub_one hgreatest)
  · rintro rfl
    exact ⟨⟨word.le_toInt, Int.le_sub_one_of_lt word.toInt_lt⟩, word.ofInt_toInt⟩

theorem fit?_eq_none_iff {n : Int} : fit? n = none ↔ n < -2 ^ 63 ∨ 2 ^ 63 ≤ n := by
  rw [fit?, ite_eq_right_iff, Int64.toInt_minValue, Int64.toInt_maxValue]
  constructor
  · intro h
    by_contra hfits
    have hfits : -2 ^ 63 ≤ n ∧ n ≤ 2 ^ 63 - 1 := by omega
    cases h hfits
  · intro h hfits
    omega

/-- The divisor can be added to a negative remainder without overflow. -/
theorem toInt_remainder (a : Int64) {m : Int64} (h : 0 < m.toInt) :
    (remainder a m).toInt = a.toInt % m.toInt := by
  have hmod : (a % m).toInt = a.toInt.tmod m.toInt := Int64.toInt_mod a m
  have hsmall : m.toInt < 2 ^ 63 := m.toInt_lt
  have hgreater : -m.toInt < a.toInt.tmod m.toInt := Int.lt_tmod_of_pos a.toInt h
  have hcongr : a.toInt.tmod m.toInt % m.toInt = a.toInt % m.toInt := by
    conv_rhs => rw [← Int.mul_tdiv_add_tmod a.toInt m.toInt, Int.mul_add_emod_self_left]
  rw [remainder]
  split
  next hneg =>
    rw [Int64.lt_iff_toInt_lt, Int64.toInt_zero, hmod] at hneg
    have hsum : (a % m + m).toInt = a.toInt.tmod m.toInt + m.toInt := by
      rw [Int64.toInt_add, hmod]
      exact Int.bmod_eq_of_le (by omega) (by omega)
    rw [hsum, ← hcongr, ← Int.add_emod_right]
    exact (Int.emod_eq_of_lt (by omega) (by omega)).symm
  next hpos =>
    rw [Int64.lt_iff_toInt_lt, Int64.toInt_zero, hmod, Int.not_lt] at hpos
    rw [hmod, ← hcongr]
    exact (Int.emod_eq_of_lt hpos (Int.tmod_lt_of_pos a.toInt h)).symm

/-- As a signed word a column from 2^63 on is negative. -/
theorem toInt_toInt64 (column : UInt64) :
    column.toInt64.toInt =
      if column.toNat < 2 ^ 63 then (column.toNat : Int) else column.toNat - 2 ^ 64 := by
  rw [← Int64.toInt_toBitVec, UInt64.toBitVec_toInt64, BitVec.toInt_eq_toNat_cond,
    UInt64.toNat_toBitVec]
  split <;> split <;> omega

/-- It has lost whole turns of the display only. -/
theorem toInt_toInt64_modEq (column : UInt64) :
    column.toInt64.toInt ≡ column.toNat [ZMOD lcdColumns] := by
  rw [toInt_toInt64, Int.ModEq]
  simp only [lcdColumns]
  split <;> omega

/-- The number of columns. -/
def width : Int64 := .ofNat lcdColumns

theorem toInt_width : width.toInt = lcdColumns := by decide

end SignedWord

open SignedWord

/-- The column of a character after scrolling, in words. What is left of the offset is less than the
width, so only a great column overflows. -/
def scrollColumn? (direction : Direction) (column : UInt64) (offset : Int64) : Option UInt64 :=
  let turn := remainder offset width
  let moved? :=
    match direction with
    | .left => sub? column.toInt64 turn
    | .right => add? column.toInt64 turn
  moved?.map fun moved => (remainder moved width).toUInt64

/-- Moving a column by the rest of an offset overflows. Columns from 2^63 on are negative as signed
words. -/
def Direction.Overflows (direction : Direction) (column : Nat) (rest : Int) : Prop :=
  match direction with
  | .left => 2 ^ 63 ≤ column ∧ column < 2 ^ 63 + rest
  | .right => column < 2 ^ 63 ∧ 2 ^ 63 ≤ column + rest

section

variable {direction : Direction} {column shifted : UInt64} {offset : Int64}

/-- The words go through the exact number, which they may fail to hold. -/
theorem scrollColumn?_eq (direction : Direction) (column : UInt64) (offset : Int64) :
    scrollColumn? direction column offset =
      (fit? (direction.moved column.toInt64.toInt (offset.toInt % lcdColumns))).map fun moved =>
        (remainder moved width).toUInt64 := by
  have hturn : (remainder offset width).toInt = offset.toInt % lcdColumns := by
    rw [toInt_remainder offset (by decide), toInt_width]
  rw [← hturn]
  cases direction <;> rfl

theorem scrollColumn?_eq_none_iff :
    scrollColumn? direction column offset = none ↔
      direction.Overflows column.toNat (offset.toInt % lcdColumns) := by
  have hcolumn : column.toNat < 2 ^ 64 := column.toNat_lt
  have hpos : 0 ≤ offset.toInt % lcdColumns := Int.emod_nonneg _ (by decide)
  have hlt : offset.toInt % lcdColumns < lcdColumns := Int.emod_lt_of_pos _ (by decide)
  have hwidth : (lcdColumns : Int) = 16 := rfl
  rw [scrollColumn?_eq, Option.map_eq_none_iff, fit?_eq_none_iff, toInt_toInt64]
  cases direction <;> simp only [Direction.moved, Direction.Overflows] <;> split <;> omega

/-- Where nothing overflows, the words give the exact column. -/
theorem toNat_scrollColumn? (h : scrollColumn? direction column offset = some shifted) :
    shifted.toNat = scrollColumn direction column.toNat offset.toInt := by
  rw [scrollColumn?_eq, Option.map_eq_some_iff] at h
  obtain ⟨moved, hmoved, rfl⟩ := h
  rw [fit?_eq_some_iff] at hmoved
  have hval : (remainder moved width).toInt = scrollColumn direction column.toNat offset.toInt := by
    rw [toInt_remainder moved (by decide), toInt_width, hmoved, val_scrollColumn]
    exact moved_modEq direction (toInt_toInt64_modEq column) (Int.mod_modEq _ _)
  have hnonneg : 0 ≤ remainder moved width := by
    rw [Int64.le_iff_toInt_le, hval]
    exact Int.natCast_nonneg _
  rw [Int64.toNat_toUInt64_of_le hnonneg, ← Int64.toNat_toInt, hval, Int.toNat_natCast]

theorem toNat_scrollColumn?_lt (h : scrollColumn? direction column offset = some shifted) :
    shifted.toNat < lcdColumns := by
  rw [toNat_scrollColumn? h]
  exact scrollColumn_lt _ _ _

end

/-! ## Columns of the display -/

section

variable (direction : Direction) {column : UInt64} (offset : Int64)
  (h : column.toNat < lcdColumns)

include h

/-- Nothing overflows on the display. -/
theorem exists_scrollColumn? : ∃ shifted, scrollColumn? direction column offset = some shifted := by
  rw [← Option.ne_none_iff_exists', ne_eq, scrollColumn?_eq_none_iff]
  have hlt : offset.toInt % lcdColumns < lcdColumns := Int.emod_lt_of_pos _ (by decide)
  have hwidth : lcdColumns = 16 := rfl
  cases direction <;> simp only [Direction.Overflows] <;> omega

/-- Scrolling twice is scrolling by the sum. In words the sum goes round at 2^64, which is a whole
number of turns of the display. -/
theorem scrollColumn?_bind (more : Int64) :
    ∃ last,
      (scrollColumn? direction column offset).bind (scrollColumn? direction · more) = some last ∧
      scrollColumn? direction column (offset + more) = some last ∧
      last.toNat = scrollColumn direction column.toNat (offset.toInt + more.toInt) := by
  have hround : (offset + more).toInt ≡ offset.toInt + more.toInt [ZMOD 2 ^ 64] := by
    rw [Int64.toInt_add]
    exact Int.bmod_emod
  have hcongr : (offset + more).toInt ≡ offset.toInt + more.toInt [ZMOD lcdColumns] :=
    hround.of_dvd (by decide)
  obtain ⟨first, hfirst⟩ := exists_scrollColumn? direction offset h
  obtain ⟨last, hlast⟩ := exists_scrollColumn? direction more (toNat_scrollColumn?_lt hfirst)
  obtain ⟨whole, hwhole⟩ := exists_scrollColumn? direction (offset + more) h
  have hsum : last.toNat = scrollColumn direction column.toNat (offset.toInt + more.toInt) := by
    rw [toNat_scrollColumn? hlast, toNat_scrollColumn? hfirst, scrollColumn_scrollColumn]
  have hsame : whole = last := by
    rw [← UInt64.toNat_inj, hsum, toNat_scrollColumn? hwhole]
    exact scrollColumn_congr direction (moved_modEq direction rfl hcongr)
  refine ⟨last, ?_, hsame ▸ hwhole, hsum⟩
  rw [hfirst, Option.bind_some, hlast]

/-- Scrolling by the same offset in the other direction leads back. -/
theorem scrollColumn?_bind_toggle :
    (scrollColumn? direction column offset).bind (scrollColumn? direction.toggle · offset) =
      some column := by
  obtain ⟨shifted, hshifted⟩ := exists_scrollColumn? direction offset h
  obtain ⟨back, hback⟩ :=
    exists_scrollColumn? direction.toggle offset (toNat_scrollColumn?_lt hshifted)
  have hsame : back = column := by
    rw [← UInt64.toNat_inj, toNat_scrollColumn? hback, toNat_scrollColumn? hshifted]
    exact scrollColumn_toggle direction offset.toInt h
  rw [hshifted, Option.bind_some, hback, hsame]

end

/-- The columns of the display. -/
def displayColumns : Set UInt64 := { column | column.toNat < lcdColumns }

/-- An offset takes the columns of the display to themselves, one to one. -/
theorem scrollColumn?_bijOn (direction : Direction) (offset : Int64) :
    Set.BijOn (scrollColumn? direction · offset) displayColumns (some '' displayColumns) := by
  refine ⟨?_, ?_, ?_⟩
  · intro column h
    obtain ⟨shifted, hshifted⟩ := exists_scrollColumn? direction offset h
    exact ⟨shifted, toNat_scrollColumn?_lt hshifted, hshifted.symm⟩
  · -- scrolling back tells the columns apart
    intro column h column' h' hsame
    have hback := scrollColumn?_bind_toggle direction offset h
    have hback' := scrollColumn?_bind_toggle direction offset h'
    dsimp only at hsame
    rw [hsame, hback'] at hback
    exact (Option.some.inj hback).symm
  · rintro _ ⟨column, h, rfl⟩
    obtain ⟨source, hsource⟩ := exists_scrollColumn? direction.toggle offset h
    have hback := scrollColumn?_bind_toggle direction.toggle offset h
    rw [hsource, Option.bind_some, Direction.toggle_toggle] at hback
    exact ⟨source, toNat_scrollColumn?_lt hsource, hback⟩

/-- In words of 64 bits a scrolled column is found unless moving it by the rest of the offset
overflows, which it does only within a display's width of 2^63. The column that is found is on the
display, and it is the exact one, which is the column moved by the offset up to whole turns. On the
display nothing overflows: scrolling twice is scrolling by the sum of the offsets, in exact integers
as well as in words, where the sum goes round; scrolling in the other direction leads back; and each
offset takes the columns of the display to themselves, one to one. -/
theorem columns_translate (direction : Direction) (column : UInt64) (offset : Int64) :
    (scrollColumn? direction column offset = none ↔
      direction.Overflows column.toNat (offset.toInt % lcdColumns)) ∧
    (∀ shifted, scrollColumn? direction column offset = some shifted →
      shifted.toNat < lcdColumns ∧
      shifted.toNat = scrollColumn direction column.toNat offset.toInt ∧
      shifted.toNat ≡ direction.moved column.toNat offset.toInt [ZMOD lcdColumns]) ∧
    (column.toNat < lcdColumns →
      (∀ more, ∃ last,
        (scrollColumn? direction column offset).bind (scrollColumn? direction · more) = some last ∧
        scrollColumn? direction column (offset + more) = some last ∧
        last.toNat = scrollColumn direction column.toNat (offset.toInt + more.toInt)) ∧
      (scrollColumn? direction column offset).bind (scrollColumn? direction.toggle · offset) =
        some column) ∧
    Set.BijOn (scrollColumn? direction · offset) displayColumns (some '' displayColumns) := by
  refine ⟨scrollColumn?_eq_none_iff, ?_, ?_, scrollColumn?_bijOn direction offset⟩
  · intro shifted h
    have hexact := toNat_scrollColumn? h
    refine ⟨toNat_scrollColumn?_lt h, hexact, ?_⟩
    rw [hexact, val_scrollColumn]
    exact Int.mod_modEq _ _
  · intro h
    exact ⟨scrollColumn?_bind direction offset h, scrollColumn?_bind_toggle direction offset h⟩

/-- From the last column to the left by the least offset, and then by the greatest. Their sum is
-1. -/
theorem columns_translate_extreme_offsets :
    scrollColumn? .left 15 Int64.minValue = some 15 ∧
      (15 : Int) ≡ 15 - -9223372036854775808 [ZMOD lcdColumns] ∧
      (15 : UInt64).toNat < lcdColumns ∧
      (some 15).bind (scrollColumn? .left · Int64.maxValue) =
        scrollColumn? .left 15 (Int64.minValue + Int64.maxValue) ∧
      scrollColumn? .left 15 (Int64.minValue + Int64.maxValue) = some 0 := by
  have hleast : scrollColumn? .left 15 Int64.minValue = some 15 := by decide +kernel
  have hcolumn : (15 : UInt64).toNat < lcdColumns := by decide
  obtain ⟨-, hfound, hdisplay, -⟩ := columns_translate .left 15 Int64.minValue
  obtain ⟨last, htwice, honce, -⟩ := (hdisplay hcolumn).1 Int64.maxValue
  rw [hleast] at htwice
  exact ⟨hleast, (hfound 15 hleast).2.2, hcolumn, htwice.trans honce.symm, by decide +kernel⟩

end CharLcd
