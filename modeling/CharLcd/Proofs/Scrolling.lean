import CharLcd.Proofs.Picture
import CharLcd.Proofs.Scan
import Mathlib.Data.Fintype.EquivFin

/-!
# Scrolling designs

A frame of a design shows all its cells, each in one slot, however far it has scrolled.

- `Options.shift`: how far the design has moved; `val_source` is the column of the design that a
  column of the display shows, as a number.
- `Options.source_bijective`: each column of the design is shown in one column of the display.
- `Compiled.pairwise_placements`, `get?_frame_of_mem`: no two placements of a design are drawn on
  the same slot, so none is overwritten.
- `Compiled.shown`, `Compiled.design_shown_on_tick`: the frame of a tick shows the design.
-/

namespace CharLcd

namespace Options

/-- How far to the right of a column of the display its source is, on a tick. -/
def shift (o : Options) (tick : Nat) : Int :=
  if o.scrolling then
    match o.direction with
    | .left => tick
    | .right => -tick
  else 0

variable (o : Options) (tick : Nat)

/-- The source of a column, as a number. -/
theorem val_source (column : Fin lcdColumns) :
    ((o.source tick column).val : Int) = (column.val + o.shift tick) % lcdColumns := by
  rw [source, shift]
  cases o.scrolling with
  | false =>
    have hlt : column.val < 16 := column.isLt
    simp only [Bool.false_eq_true, if_false, lcdColumns]
    omega
  | true =>
    rw [if_pos rfl, if_pos rfl]
    cases o.direction with
    | left =>
      simp only [Fin.val_add, Fin.val_ofNat, lcdColumns]
      omega
    | right =>
      simp only [Fin.val_sub, Fin.val_ofNat, lcdColumns]
      omega

theorem source_injective : Function.Injective (o.source tick) := by
  intro column column' h
  have hval := o.val_source tick column
  have hval' := o.val_source tick column'
  rw [h] at hval
  simp only [lcdColumns] at hval hval'
  omega

/-- Each column of the design is shown in one column of the display. -/
theorem source_bijective : Function.Bijective (o.source tick) :=
  Finite.injective_iff_bijective.mp (o.source_injective tick)

end Options

/-- No position is listed twice. -/
theorem SlotMap.pairwise_occupied (m : SlotMap) : m.occupied.Pairwise fun e e' => e.1 ≠ e'.1 := by
  rw [occupied, List.pairwise_filterMap]
  refine Grid.nodup_positions.imp ?_
  intro p q hne e he e' he'
  obtain ⟨index, -, rfl⟩ := Option.map_eq_some_iff.mp he
  obtain ⟨index', -, rfl⟩ := Option.map_eq_some_iff.mp he'
  exact hne

namespace Compiled

variable {d : Display} {o : Options}

/-- What a slot shows: the blank bitmap if it is empty, and otherwise the character that it names,
if there is one. -/
def shown (c : Compiled) (f : Frame) (line : Fin lcdLines) (column : Fin lcdColumns) :
    Option Bitmap :=
  (f.get line column).elim (some Bitmap.blank) c.glyphs.get?

/-- A slot of the frame shows the cell at the source. -/
theorem shown_frame_ofDesign (tick : Nat) (line : Fin lcdLines) (column : Fin lcdColumns) :
    (ofDesign d o).shown ((ofDesign d o).frame tick) line column =
      some (d.get line (o.source tick column)) := by
  rw [shown, frame, get_frame_ofDesign]
  cases hindex : (GlyphTable.ofDisplay d).index? (d.get line (o.source tick column)) with
  | none =>
    rw [(GlyphTable.index?_ofDisplay_eq_none_iff d line _).mp hindex]
    rfl
  | some index => exact GlyphTable.get?_of_index? hindex

/-- A placement of a design is drawn on the display, and it stays there. -/
theorem get?_frame_of_mem {p : Placement} (h : p ∈ (ofDesign d o).plan.placements) (tick : Nat) :
    ((ofDesign d o).frame tick).get? p.line ((ofDesign d o).plan.columnAt p tick) =
      some (some p.glyph) := by
  obtain ⟨line, column, index, hindex, rfl⟩ := mem_placements_ofDesign.mp h
  obtain ⟨column', hcolumn⟩ := (o.source_bijective tick).surjective column
  have hat : (ofDesign d o).plan.columnAt ⟨line, column, index⟩ tick = column'.val :=
    (columnAt_ofDesign_eq_iff _ tick column column' rfl).mpr hcolumn.symm
  rw [hat, Grid.get?_fin, frame, get_frame_ofDesign, hcolumn, hindex]

/-- No two placements of a design are drawn on the same slot. -/
theorem pairwise_placements (tick : Nat) :
    (ofDesign d o).plan.placements.Pairwise fun p q =>
      (p.line, (ofDesign d o).plan.columnAt p tick) ≠
        (q.line, (ofDesign d o).plan.columnAt q tick) := by
  show (Plan.ofSlots _ o).placements.Pairwise _
  rw [Plan.placements_ofSlots, List.pairwise_map]
  refine (SlotMap.pairwise_occupied _).imp ?_
  rintro ⟨⟨line, column⟩, index⟩ ⟨⟨line', column'⟩, index'⟩ hne heq
  obtain ⟨hline, hcolumn⟩ := Prod.mk.inj heq
  -- both are the column at the source of the slot
  obtain ⟨slot, hslot⟩ := (o.source_bijective tick).surjective column
  have hat := (columnAt_ofDesign_eq_iff (d := d) ⟨line, column, index⟩ tick column slot rfl).mpr
    hslot.symm
  have hat' := (columnAt_ofDesign_eq_iff (d := d) ⟨line', column', index'⟩ tick column' slot
    rfl).mp (hcolumn.symm.trans hat)
  exact hne (Prod.ext (Fin.ext hline) (hslot.symm.trans hat'.symm))

/-- The placements are those of the cells that are not blank. -/
theorem get_ne_blank_iff_exists_placement (line : Fin lcdLines) (column : Fin lcdColumns) :
    d.get line column ≠ Bitmap.blank ↔
      ∃ p ∈ (ofDesign d o).plan.placements, p.line = line.val ∧ p.column = column.val := by
  rw [ne_eq, ← GlyphTable.index?_ofDisplay_eq_none_iff, ← ne_eq, Option.ne_none_iff_exists']
  constructor
  · rintro ⟨index, hindex⟩
    exact ⟨⟨line, column, index⟩,
      mem_placements_ofDesign.mpr ⟨line, column, index, hindex, rfl⟩, rfl, rfl⟩
  · rintro ⟨p, hp, hline, hcolumn⟩
    obtain ⟨line', column', index, hindex, rfl⟩ := mem_placements_ofDesign.mp hp
    obtain rfl := Fin.ext hline
    obtain rfl := Fin.ext hcolumn
    exact ⟨index, hindex⟩

/-- On every tick each slot shows the cell at the source of its column, and each column of the
design is the source of one column of the display. The placements are those of the cells that are
not blank, no two of them are drawn on the same slot, and none is overwritten. The first frame is
the display itself. -/
theorem design_shown_on_tick (d : Display) (o : Options) (tick : Nat) :
    let c := ofDesign d o
    (∀ line column, c.shown (c.frame tick) line column =
      some (d.get line (o.source tick column))) ∧
    (∀ column, ((o.source tick column).val : Int) = (column.val + o.shift tick) % lcdColumns) ∧
    Function.Bijective (o.source tick) ∧
    (∀ line column, d.get line column ≠ Bitmap.blank ↔
      ∃ p ∈ c.plan.placements, p.line = line.val ∧ p.column = column.val) ∧
    (c.plan.placements.Pairwise fun p q =>
      (p.line, c.plan.columnAt p tick) ≠ (q.line, c.plan.columnAt q tick)) ∧
    (∀ p ∈ c.plan.placements,
      (c.frame tick).get? p.line (c.plan.columnAt p tick) = some (some p.glyph)) ∧
    (∀ line column, c.shown (c.frame 0) line column = some (d.get line column)) := by
  intro c
  refine ⟨shown_frame_ofDesign tick, o.val_source tick, o.source_bijective tick,
    get_ne_blank_iff_exists_placement, pairwise_placements tick,
    fun p hp => get?_frame_of_mem hp tick, ?_⟩
  intro line column
  rw [shown_frame_ofDesign, Options.source_zero]

/-- A character that has left the display on the left comes back on the right. -/
theorem design_shown_on_tick_past_the_edge :
    let dot := Bitmap.blank.set 2 2 true
    let d : Display := Display.blank.set 0 3 dot
    let c := ofDesign d { scrolling := true }
    c.plan.placements = [⟨0, 3, 0⟩] ∧ c.plan.columnAt ⟨0, 3, 0⟩ 20 = 15 ∧
      (c.frame 20).get? 0 15 = some (some 0) ∧ c.shown (c.frame 20) 0 15 = some dot := by
  intro dot d c
  have hplacements : c.plan.placements = [⟨0, 3, 0⟩] := by decide +kernel
  have hcolumn : c.plan.columnAt ⟨0, 3, 0⟩ 20 = 15 := by decide +kernel
  obtain ⟨hshown, -, -, -, -, hdrawn, -⟩ := design_shown_on_tick d { scrolling := true } 20
  refine ⟨hplacements, hcolumn, ?_, ?_⟩
  · rw [← hcolumn]
    exact hdrawn ⟨0, 3, 0⟩ (hplacements ▸ List.mem_cons_self)
  · have hcell : d.get 0 (Options.source { scrolling := true } 20 15) = dot := by decide +kernel
    rw [hshown, hcell]

end Compiled

end CharLcd
