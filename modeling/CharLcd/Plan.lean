import CharLcd.GlyphTable
import CharLcd.Options

/-!
# Redraw plans

A plan says where each character is drawn on every tick of the animation and
whether the sketch redraws the whole display or only what changed.

- `Plan`: the three kinds, `static`, `naive` and `buffered`.
- `Plan.ofSlots`: the plan chosen by the options.
- `scrollColumn`: the column a character has after scrolling by an offset.
- `Plan.columnAt`: the column of a placement on a tick.
-/

namespace CharLcd

/-- A character at its unscrolled position. -/
structure Placement where
  line : Nat
  column : Nat
  glyph : Nat
  deriving DecidableEq, Repr

/-- How the loop of the sketch redraws the display. -/
inductive Plan where
  /-- Every character at its own place; nothing moves. -/
  | static (placements : List Placement)
  /-- Clear the display and draw everything again on each tick. -/
  | naive (placements : List Placement) (direction : Direction)
  /-- Remember the previous frame and write only the slots that changed. -/
  | buffered (placements : List Placement) (direction : Direction) (intervalMs : UInt32)
  deriving DecidableEq, Repr

/-- Pause after drawing a static plan, in milliseconds. -/
def staticHoldMs : UInt32 := 2000

/-- Interval of naive scrolling, in milliseconds, whatever the options say. -/
def naiveIntervalMs : UInt32 := 300

/-- The column of a character after scrolling by `offset`, which may be any
number of either sign. Left subtracts the offset and right adds it, and the
result wraps into the sixteen columns. -/
def scrollColumn (direction : Direction) (column : Nat) (offset : Int) : Nat :=
  match direction with
  | .left => (((column : Int) - offset) % lcdColumns).toNat
  | .right => (((column : Int) + offset) % lcdColumns).toNat

/-- A scrolled column is on the display. -/
theorem scrollColumn_lt (direction : Direction) (column : Nat) (offset : Int) :
    scrollColumn direction column offset < lcdColumns := by
  cases direction <;> simp only [scrollColumn, lcdColumns] <;> omega

/-- Whole turns of the display change nothing. -/
theorem scrollColumn_emod (direction : Direction) (column : Nat) (offset : Int) :
    scrollColumn direction column (offset % lcdColumns) = scrollColumn direction column offset := by
  cases direction <;> simp only [scrollColumn, Int.sub_emod_emod, Int.add_emod_emod]

namespace Plan

/-- The characters of the plan, in drawing order. -/
def placements : Plan → List Placement
  | static ps => ps
  | naive ps _ => ps
  | buffered ps _ _ => ps

/-- The scroll direction of an animated plan. -/
def direction? : Plan → Option Direction
  | static _ => none
  | naive _ direction => some direction
  | buffered _ direction _ => some direction

/-- Milliseconds between two rounds of the loop. -/
def intervalMs : Plan → UInt32
  | static _ => staticHoldMs
  | naive _ _ => naiveIntervalMs
  | buffered _ _ interval => interval

/-- Whether the picture moves. -/
def isAnimated (p : Plan) : Bool := p.direction?.isSome

/-- Whether a round writes only the slots that differ from the previous frame. -/
def isPartial : Plan → Bool
  | buffered _ _ _ => true
  | _ => false

/-- The column a placement has on a tick. -/
def columnAt (p : Plan) (placement : Placement) (tick : Nat) : Nat :=
  match p.direction? with
  | none => placement.column
  | some direction => scrollColumn direction placement.column (tick % lcdColumns : Nat)

/-- The plan for the occupied slots of a display under the given options. -/
def ofSlots (slots : SlotMap) (o : Options) : Plan :=
  let placements := slots.occupied.map fun e => ⟨e.1.1, e.1.2, e.2⟩
  if o.scrolling then
    if o.buffered then buffered placements o.direction (max o.intervalMs 1)
    else naive placements o.direction
  else static placements

/-- The picture moves exactly when scrolling is on. -/
@[simp] theorem isAnimated_ofSlots (slots : SlotMap) (o : Options) :
    (ofSlots slots o).isAnimated = o.scrolling := by
  rw [ofSlots]
  cases o.scrolling <;> cases o.buffered <;> rfl

/-- The interval does not depend on the characters. -/
theorem intervalMs_ofSlots_congr (slots slots' : SlotMap) (o : Options) :
    (ofSlots slots o).intervalMs = (ofSlots slots' o).intervalMs := by
  rw [ofSlots, ofSlots]
  cases o.scrolling <;> cases o.buffered <;> rfl

/-- No round is over at once, not even with an interval of nothing in the options. -/
theorem intervalMs_ofSlots_pos (slots : SlotMap) (o : Options) :
    0 < (ofSlots slots o).intervalMs := by
  have hstatic : 0 < staticHoldMs := by decide
  have hnaive : 0 < naiveIntervalMs := by decide
  rw [ofSlots]
  cases o.scrolling with
  | false => exact hstatic
  | true =>
    cases o.buffered with
    | false => exact hnaive
    | true => exact o.intervalMs_clamped_pos

/-- The plan draws every occupied slot, whatever the options. -/
theorem placements_ofSlots (slots : SlotMap) (o : Options) :
    (ofSlots slots o).placements = slots.occupied.map fun e => ⟨e.1.1, e.1.2, e.2⟩ := by
  rw [ofSlots]
  cases o.scrolling <;> cases o.buffered <;> rfl

end Plan

end CharLcd
