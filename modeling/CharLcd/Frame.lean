import CharLcd.Plan

/-!
# Frames and slot writes

What the LCD shows on a tick, and the writes that bring it there.

- `Frame`: the content of every slot.
- `Frame.ofPlan`: the frame of a plan on a tick; of two placements on one slot
  the later wins, and placements off the display are not drawn.
- `Frame.write`: one write, which changes one slot and no other (`get_write`).
- `Frame.diff`: the writes that turn one frame into another (`mem_diff`).
- `Cycle.ofPlan`: what one round of the sketch's loop does.
-/

namespace CharLcd

/-- The content of every slot of the LCD. -/
abbrev Frame := SlotMap

/-- One cursor move and the character written there; `none` erases the slot. -/
structure SlotWrite where
  line : Nat
  column : Nat
  slot : Slot
  deriving DecidableEq, Repr

namespace Frame

/-- The frame with every slot empty. -/
def blank : Frame := Grid.replicate none

@[simp] theorem get_blank (line : Fin lcdLines) (column : Fin lcdColumns) :
    blank.get line column = none :=
  Grid.get_replicate _ _ _

/-- Carry out a write; one outside the display has no effect. -/
def write (f : Frame) (w : SlotWrite) : Frame :=
  (f.set? w.line w.column w.slot).getD f

/-- A write changes one slot and no other. -/
theorem get_write (f : Frame) (w : SlotWrite) (line : Fin lcdLines) (column : Fin lcdColumns) :
    (f.write w).get line column =
      if line.val = w.line ∧ column.val = w.column then w.slot else f.get line column := by
  rw [write, Grid.set?]
  split
  next h =>
    rw [Option.getD_some, Grid.get_set]
    simp only [Fin.ext_iff]
  next h =>
    rw [Option.getD_none, if_neg]
    rintro ⟨hl, hc⟩
    exact h ⟨hl ▸ line.isLt, hc ▸ column.isLt⟩

/-- Carry out writes in order. -/
def writeAll (f : Frame) (ws : List SlotWrite) : Frame :=
  ws.foldl write f

@[simp] theorem writeAll_nil (f : Frame) : f.writeAll [] = f := rfl

@[simp] theorem writeAll_cons (f : Frame) (w : SlotWrite) (ws : List SlotWrite) :
    f.writeAll (w :: ws) = (f.write w).writeAll ws := rfl

@[simp] theorem writeAll_append (f : Frame) (ws vs : List SlotWrite) :
    f.writeAll (ws ++ vs) = (f.writeAll ws).writeAll vs :=
  List.foldl_append

/-- The write that draws a placement on a tick. -/
def drawing (plan : Plan) (tick : Nat) (p : Placement) : SlotWrite :=
  ⟨p.line, plan.columnAt p tick, some p.glyph⟩

/-- The frame a plan shows on a tick. -/
def ofPlan (plan : Plan) (tick : Nat) : Frame :=
  blank.writeAll (plan.placements.map (drawing plan tick))

/-- The writes, in scan order, that turn `prev` into `next`. -/
def diff (prev next : Frame) : List SlotWrite :=
  (Grid.positions lcdLines lcdColumns).filterMap fun p =>
    let slot := next.get p.1 p.2
    if prev.get p.1 p.2 = slot then none else some ⟨p.1, p.2, slot⟩

/-- The writes go to the slots in which the frames differ, and bring their new content. -/
theorem mem_diff {prev next : Frame} {w : SlotWrite} :
    w ∈ prev.diff next ↔ ∃ (line : Fin lcdLines) (column : Fin lcdColumns),
      prev.get line column ≠ next.get line column ∧
        w = ⟨line, column, next.get line column⟩ := by
  simp only [diff, List.mem_filterMap, Prod.exists, Option.ite_none_left_eq_some]
  constructor
  · rintro ⟨line, column, -, hne, h⟩
    exact ⟨line, column, hne, (Option.some.inj h).symm⟩
  · rintro ⟨line, column, hne, rfl⟩
    exact ⟨line, column, Grid.mem_positions _, hne, rfl⟩

end Frame

/-- What one round of the sketch's loop does to the LCD. -/
structure Cycle where
  /-- Whether the round begins by clearing the display. -/
  clears : Bool
  writes : List SlotWrite
  deriving DecidableEq, Repr

namespace Cycle

/-- Round number `tick` of a plan. Static and naive plans clear and write
every character; a buffered plan writes the difference from the frame before,
which is the blank frame in round 0. -/
def ofPlan (plan : Plan) (tick : Nat) : Cycle :=
  if plan.isPartial then
    let prev := match tick with
      | 0 => Frame.blank
      | t + 1 => Frame.ofPlan plan t
    ⟨false, prev.diff (Frame.ofPlan plan tick)⟩
  else
    ⟨true, plan.placements.map (Frame.drawing plan tick)⟩

end Cycle

end CharLcd
