import CharLcd.Proofs.LcdReading

/-!
# Finding the slot that is drawn at a position

A slot takes five columns and four rows, and one column or row of the box lies between any two
slots, and between the slots and the terminal around them. These columns and rows are the lines of a
lattice: where none of them goes through, there is a slot, and the slot that is found is the one
that is drawn there.

- `slotPositions`: the positions of a slot, row by row; `printed_drawSlot` says that drawing a slot
  prints to these, whether the LCD has the slot or not.
- `slotAt?_eq_none_iff`: no slot is found outside the box and on the lines of the lattice.
- `slot_found_iff_drawn`: finding a slot is the inverse of drawing it.
-/

namespace CharLcd.LcdView

open Terminal

variable {box p cursor : Position}

/-! ## The positions of a slot -/

/-- The positions of a slot, row by row. -/
def slotPositions (box : Position) (line column : Nat) : List Position :=
  let origin := slotOrigin box line column
  (List.range slotRows).flatMap fun row =>
    (List.range slotColumns).map fun i => ⟨origin.column + i, origin.row + row⟩

/-- Drawing a slot prints to its positions. -/
theorem printed_drawSlot (line column : Nat) (b : Option Bitmap) (selected : Bool) :
    Screen.printed cursor (drawSlot box line column b selected) =
      slotPositions box line column := by
  rw [drawSlot, Screen.printed_flatMap fun _ _ => Screen.movesFirst_moveTo _ _ _]
  simp only [Screen.printed, List.append_nil, length_rowText, Screen.span]
  rfl

theorem mem_slotPositions {line column : Nat} :
    p ∈ slotPositions box line column ↔ (slotArea box line column).Contains p := by
  simp only [slotPositions, slotArea, Area.Contains, List.mem_flatMap, List.mem_range,
    List.mem_map]
  constructor
  · rintro ⟨row, hrow, i, hi, rfl⟩
    exact ⟨⟨Nat.le_add_right _ _, Nat.add_lt_add_left hrow _⟩, Nat.le_add_right _ _,
      Nat.add_lt_add_left hi _⟩
  · rintro ⟨⟨htop, hbottom⟩, hleft, hright⟩
    refine ⟨p.row - (slotOrigin box line column).row, by omega,
      p.column - (slotOrigin box line column).column, by omega, Position.ext ?_ ?_⟩
    · exact Nat.add_sub_cancel' hleft
    · exact Nat.add_sub_cancel' htop

/-- A slot is found by its numbers at its positions, if the LCD has it. -/
theorem slotAt?_map_eq_some_iff {line column : Nat} :
    (slotAt? box p).map (Prod.map Fin.val Fin.val) = some (line, column) ↔
      line < lcdLines ∧ column < lcdColumns ∧ p ∈ slotPositions box line column := by
  rw [Option.map_eq_some_iff]
  constructor
  · rintro ⟨q, hq, hnumbers⟩
    obtain ⟨rfl, rfl⟩ := Prod.mk.inj hnumbers
    exact ⟨q.1.isLt, q.2.isLt, mem_slotPositions.mpr (contains_slotArea_iff.mpr hq)⟩
  · rintro ⟨hline, hcolumn, hp⟩
    exact ⟨(⟨line, hline⟩, ⟨column, hcolumn⟩),
      contains_slotArea_iff.mp (mem_slotPositions.mp hp), rfl⟩

/-- No two slots share a position. -/
theorem disjoint_slotPositions {q r : Fin lcdLines × Fin lcdColumns} (hne : q ≠ r) :
    (slotPositions box q.1 q.2).Disjoint (slotPositions box r.1 r.2) := by
  intro p hq hr
  have hq := contains_slotArea_iff.mp (mem_slotPositions.mp hq)
  have hr := contains_slotArea_iff.mp (mem_slotPositions.mp hr)
  exact hne (Option.some.inj (hq.symm.trans hr))

/-! ## Border and gaps -/

/-- No slot is found outside the box, and none on the lines between and around the slots. -/
theorem slotAt?_eq_none_iff :
    slotAt? box p = none ↔
      ¬ (area box).Contains p ∨ (p.column - box.column) % (slotColumns + 1) = 0 ∨
        (p.row - box.row) % (slotRows + 1) = 0 := by
  have hwidth : boxWidth = 97 := rfl
  have hheight : boxHeight = 11 := rfl
  rw [Option.eq_none_iff_forall_ne_some]
  simp only [area, Area.Contains, hwidth, hheight, slotColumns, slotRows, glyphColumns]
  constructor
  · intro h
    refine Decidable.byContradiction fun hslot => ?_
    -- the slot that the position belongs to
    have hline : (p.row - box.row) / 5 < lcdLines := by
      simp only [lcdLines]
      omega
    have hcolumn : (p.column - box.column) / 6 < lcdColumns := by
      simp only [lcdColumns]
      omega
    refine h (⟨_, hline⟩, ⟨_, hcolumn⟩) (slotAt?_eq_some_iff.mpr ?_)
    simp only [slotOrigin, slotColumns, slotRows, glyphColumns]
    omega
  · rintro h ⟨⟨line, hline⟩, ⟨column, hcolumn⟩⟩ hq
    have hplace := slotAt?_eq_some_iff.mp hq
    simp only [slotOrigin, slotColumns, slotRows, glyphColumns] at hplace
    simp only [lcdLines] at hline
    simp only [lcdColumns] at hcolumn
    omega

section

variable (box cursor : Position)

/-- **Finding a slot is the inverse of drawing it.** A slot is found at the positions that it is
drawn on, which are five columns and four rows and belong to no other slot. Nothing is found where
the border is drawn, between the slots and outside the box. -/
theorem slot_found_iff_drawn :
    (∀ (p : Position) (line column : Nat) (b : Option Bitmap) (selected : Bool),
      (slotAt? box p).map (Prod.map Fin.val Fin.val) = some (line, column) ↔
        line < lcdLines ∧ column < lcdColumns ∧
          p ∈ Screen.printed cursor (drawSlot box line column b selected)) ∧
    (∀ (line column : Nat) (b : Option Bitmap) (selected : Bool),
      Screen.printed cursor (drawSlot box line column b selected) =
        (List.range 4).flatMap fun row => (List.range 5).map fun i =>
          ⟨(slotOrigin box line column).column + i, (slotOrigin box line column).row + row⟩) ∧
    (∀ (q r : Fin lcdLines × Fin lcdColumns) (b b' : Option Bitmap) (selected selected' : Bool),
      q ≠ r → (Screen.printed cursor (drawSlot box q.1 q.2 b selected)).Disjoint
        (Screen.printed cursor (drawSlot box r.1 r.2 b' selected'))) ∧
    (∀ p ∈ Screen.printed cursor (drawBorder box), slotAt? box p = none) ∧
    ∀ p, slotAt? box p = none ↔
      ¬ (area box).Contains p ∨ (p.column - box.column) % 6 = 0 ∨ (p.row - box.row) % 5 = 0 := by
  refine ⟨fun p line column b selected => ?_, fun line column b selected => ?_,
    fun q r b b' selected selected' hne => ?_, fun p hp => ?_, fun p => slotAt?_eq_none_iff⟩
  · rw [printed_drawSlot]
    exact slotAt?_map_eq_some_iff
  · exact printed_drawSlot line column b selected
  · rw [printed_drawSlot, printed_drawSlot]
    exact disjoint_slotPositions hne
  · obtain ⟨c, hc⟩ := mem_printed_drawBorder.mp hp
    refine Option.eq_none_iff_forall_ne_some.mpr fun q hq => ?_
    rw [borderChar?_of_slotAt? hq] at hc
    cases hc

end

/-- The lower right corner of the last slot, the border beside it, and the gap before the slot. -/
theorem slot_found_iff_drawn_last_slot :
    let box : Position := ⟨3, 2⟩
    (⟨98, 11⟩ : Position) ∈ Screen.printed box (drawSlot box 1 15 none true) ∧
      (⟨99, 11⟩ ∈ Screen.printed box (drawBorder box) ∧ slotAt? box ⟨99, 11⟩ = none) ∧
      slotAt? box ⟨93, 11⟩ = none ∧
      (Screen.printed box (drawSlot box 1 14 none false)).Disjoint
        (Screen.printed box (drawSlot box 1 15 none true)) := by
  intro box
  obtain ⟨hfound, -, hdisjoint, hborder, hnone⟩ := slot_found_iff_drawn box box
  have hedge : (⟨99, 11⟩ : Position) ∈ Screen.printed box (drawBorder box) :=
    mem_printed_drawBorder.mpr ⟨'│', by decide⟩
  refine ⟨?_, ⟨hedge, hborder _ hedge⟩, ?_, ?_⟩
  · exact ((hfound ⟨98, 11⟩ 1 15 none true).mp (by decide)).2.2
  · exact (hnone ⟨93, 11⟩).mpr (.inr (.inl (by decide)))
  · exact hdisjoint (⟨1, by decide⟩, ⟨14, by decide⟩) (⟨1, by decide⟩, ⟨15, by decide⟩) none none
      false true (by decide)

end CharLcd.LcdView
