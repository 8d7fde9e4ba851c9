import CharLcd.Compiled
import CharLcd.Proofs.Frame
import CharLcd.Proofs.GlyphTable

/-!
# The picture of a design on a tick

- `Options.source`: the column of the design that stands in a column of the
  display; `scrollColumn_eq_iff` is the way back.
- `Compiled.mem_placements_ofDesign`: what a design places, and where.
- `Compiled.get_frame_ofDesign`: the character that the frame of a design has in a slot;
  `show?_frame_ofDesign` is what it shows there.
-/

namespace CharLcd

/-- The column of the design that a column of the display shows on a tick. -/
def Options.source (o : Options) (tick : Nat) (column : Fin lcdColumns) : Fin lcdColumns :=
  if o.scrolling then
    match o.direction with
    | .left => column + Fin.ofNat lcdColumns tick
    | .right => column - Fin.ofNat lcdColumns tick
  else column

@[simp] theorem Options.source_zero (o : Options) (column : Fin lcdColumns) :
    o.source 0 column = column := by
  have hleft : ∀ c : Fin lcdColumns, c + Fin.ofNat lcdColumns 0 = c := by decide
  have hright : ∀ c : Fin lcdColumns, c - Fin.ofNat lcdColumns 0 = c := by decide
  rw [Options.source]
  split
  · cases o.direction with
    | left => exact hleft column
    | right => exact hright column
  · rfl

/-- A column is scrolled to where it is the source. -/
theorem scrollColumn_eq_iff (direction : Direction) (tick : Nat) (column column' : Fin lcdColumns) :
    scrollColumn direction column (tick % lcdColumns : Nat) = column'.val ↔
      column = match direction with
        | .left => column' + Fin.ofNat lcdColumns tick
        | .right => column' - Fin.ofNat lcdColumns tick := by
  cases direction with
  | left =>
    rw [Fin.ext_iff, Fin.val_add, Fin.val_ofNat]
    simp only [scrollColumn, lcdColumns]
    omega
  | right =>
    rw [Fin.ext_iff, Fin.val_sub, Fin.val_ofNat]
    simp only [scrollColumn, lcdColumns]
    omega

namespace Compiled

variable {d : Display} {o : Options}

theorem mem_placements_ofDesign {p : Placement} :
    p ∈ (ofDesign d o).plan.placements ↔
      ∃ (line : Fin lcdLines) (column : Fin lcdColumns) (index : Nat),
        (GlyphTable.ofDisplay d).index? (d.get line column) = some index ∧
          p = ⟨line, column, index⟩ := by
  show p ∈ (Plan.ofSlots _ o).placements ↔ _
  rw [Plan.placements_ofSlots, List.mem_map]
  constructor
  · rintro ⟨⟨⟨line, column⟩, index⟩, he, rfl⟩
    have hslot := SlotMap.mem_occupied.mp he
    rw [GlyphTable.get_place] at hslot
    exact ⟨line, column, index, hslot, rfl⟩
  · rintro ⟨line, column, index, hslot, rfl⟩
    refine ⟨((line, column), index), SlotMap.mem_occupied.mpr ?_, rfl⟩
    rw [GlyphTable.get_place]
    exact hslot

/-- Scrolling moves a placement to the slot of which its column is the source. -/
theorem columnAt_ofDesign_eq_iff (p : Placement) (n : Nat) (column column' : Fin lcdColumns)
    (hp : p.column = column) :
    (ofDesign d o).plan.columnAt p n = column'.val ↔ column = o.source n column' := by
  show (Plan.ofSlots _ o).columnAt p n = _ ↔ _
  rw [Options.source, Plan.ofSlots, Plan.columnAt]
  cases o.scrolling with
  | false =>
    show p.column = column'.val ↔ column = column'
    rw [hp, Fin.ext_iff]
  | true =>
    have hscroll := scrollColumn_eq_iff o.direction n column column'
    rw [← hp] at hscroll
    cases o.buffered <;> exact hscroll

/-- What the frame of a design shows in a slot: the character of the cell at the source. -/
theorem get_frame_ofDesign (n : Nat) (line : Fin lcdLines) (column : Fin lcdColumns) :
    Grid.get (Frame.ofPlan (ofDesign d o).plan n) line column =
      (GlyphTable.ofDisplay d).index? (d.get line (o.source n column)) := by
  -- every drawing brings its slot to `next`, so the order of the drawings does not matter
  let next : Frame := Grid.ofFn fun line column =>
    (GlyphTable.ofDisplay d).index? (d.get line (o.source n column))
  have hnext (line : Fin lcdLines) (column : Fin lcdColumns) : Grid.get next line column =
      (GlyphTable.ofDisplay d).index? (d.get line (o.source n column)) :=
    Grid.get_ofFn _ _ _
  have hbrings : Frame.Brings ((ofDesign d o).plan.placements.map
      (Frame.drawing (ofDesign d o).plan n)) next := by
    intro w hw
    obtain ⟨p, hp, rfl⟩ := List.mem_map.mp hw
    obtain ⟨line, column, index, hindex, rfl⟩ := mem_placements_ofDesign.mp hp
    have hlt : (ofDesign d o).plan.columnAt ⟨line, column, index⟩ n < lcdColumns := by
      rw [Plan.columnAt]
      split
      · exact column.isLt
      · exact scrollColumn_lt _ _ _
    have hsource := (columnAt_ofDesign_eq_iff (d := d) ⟨line, column, index⟩ n column ⟨_, hlt⟩
      rfl).mp rfl
    refine ⟨line, ⟨_, hlt⟩, ?_⟩
    rw [hnext, ← hsource, hindex]
    rfl
  rw [Frame.ofPlan, Frame.get_writeAll_of_brings hbrings, hnext]
  split
  next => rfl
  next hunwritten =>
    -- a slot with a character at its source is written
    cases hindex : (GlyphTable.ofDisplay d).index? (d.get line (o.source n column)) with
    | none => exact Frame.get_blank _ _
    | some index =>
      refine absurd (List.mem_map.mpr ⟨⟨line, o.source n column, index⟩,
        mem_placements_ofDesign.mpr ⟨line, _, index, hindex, rfl⟩, ?_⟩) hunwritten
      rw [Frame.drawing, (columnAt_ofDesign_eq_iff _ n _ column rfl).mpr rfl, hindex]

/-- A slot of the frame shows the cell at the source. -/
theorem show?_frame_ofDesign (n : Nat) (line : Fin lcdLines) (column : Fin lcdColumns) :
    ((ofDesign d o).glyphs.show?
      (Grid.get (Frame.ofPlan (ofDesign d o).plan n) line column)).getD Bitmap.blank =
        d.get line (o.source n column) := by
  rw [get_frame_ofDesign]
  cases hindex : (GlyphTable.ofDisplay d).index? (d.get line (o.source n column)) with
  | none => exact ((GlyphTable.index?_ofDisplay_eq_none_iff d line _).mp hindex).symm
  | some index =>
    show ((GlyphTable.ofDisplay d).get? index).getD Bitmap.blank = _
    rw [GlyphTable.get?_of_index? hindex]
    rfl

end Compiled

end CharLcd
