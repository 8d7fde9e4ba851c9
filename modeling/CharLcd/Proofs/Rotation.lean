import CharLcd.Proofs.Patch

/-!
# Scrolling turns the lines round

One tick of an animated plan moves every line by one column, and what leaves it on one side comes
back on the other. The plan may be any: placements may lie off the display or on one another, since
a tick moves all of them alike and the last one in a slot stays the last one there.

- `Direction.next`: the column after a column in a direction; `eq_next_iff` is the way back.
- `Frame.rotate`: a frame with all lines moved by one column; `Frame.diff_rotate` says that the
  difference of two frames moves with them.
- `Plan.columnAt_succ`: a tick moves a placement to the next column.
- `Plan.frames_rotate`: what this makes of the frames and of the rounds. The first round starts
  from a blank display, which is no frame of the plan, and is not among them.
-/

namespace CharLcd

/-! ## Columns -/

/-- The column after a column in a direction. After the last one comes the first one. -/
def Direction.next (direction : Direction) (column : Nat) : Nat :=
  match direction with
  | .left => (column + (lcdColumns - 1)) % lcdColumns
  | .right => (column + 1) % lcdColumns

namespace Direction

theorem next_lt (direction : Direction) (column : Nat) : direction.next column < lcdColumns := by
  cases direction <;> exact Nat.mod_lt _ lcdColumns_pos

/-- The column after a column of the display. -/
def nextColumn (direction : Direction) (column : Fin lcdColumns) : Fin lcdColumns :=
  ⟨direction.next column, direction.next_lt column⟩

/-- A column comes after another one where that one comes after it in the other direction. -/
theorem eq_next_iff (direction : Direction) {column column' : Nat} (h : column < lcdColumns)
    (h' : column' < lcdColumns) :
    column' = direction.next column ↔ direction.toggle.next column' = column := by
  cases direction <;> simp only [next, toggle, lcdColumns] at h h' ⊢ <;> omega

@[simp] theorem nextColumn_toggle (direction : Direction) (column : Fin lcdColumns) :
    direction.toggle.nextColumn (direction.nextColumn column) = column :=
  Fin.ext ((direction.eq_next_iff column.isLt (direction.next_lt column)).mp rfl)

theorem nextColumn_injective (direction : Direction) :
    Function.Injective direction.nextColumn :=
  Function.LeftInverse.injective direction.nextColumn_toggle

end Direction

namespace Plan

variable {plan : Plan} {direction : Direction}

theorem columnAt_lt (h : plan.direction? = some direction) (p : Placement) (tick : Nat) :
    plan.columnAt p tick < lcdColumns := by
  rw [columnAt, h]
  exact scrollColumn_lt _ _ _

/-- A tick moves a placement to the next column. -/
theorem columnAt_succ (h : plan.direction? = some direction) (p : Placement) (tick : Nat) :
    plan.columnAt p (tick + 1) = direction.next (plan.columnAt p tick) := by
  simp only [columnAt, h]
  cases direction <;> simp only [scrollColumn, Direction.next, lcdColumns] <;> omega

/-- After as many ticks as there are columns a placement is back. -/
theorem columnAt_add_columns (plan : Plan) (p : Placement) (tick : Nat) :
    plan.columnAt p (tick + lcdColumns) = plan.columnAt p tick := by
  rw [columnAt, columnAt, Nat.add_mod_right]

end Plan

/-! ## Frames -/

/-- The write with its column moved. -/
def SlotWrite.rotate (direction : Direction) (w : SlotWrite) : SlotWrite :=
  { w with column := direction.next w.column }

namespace Frame

variable {direction : Direction}

/-- The frame with every line moved by one column. What a column shows stood before in the column
after it in the other direction. -/
def rotate (direction : Direction) (f : Frame) : Frame :=
  Grid.ofFn fun line column => f.get line (direction.toggle.nextColumn column)

theorem get_rotate (direction : Direction) (f : Frame) (line : Fin lcdLines)
    (column : Fin lcdColumns) :
    (f.rotate direction).get line column =
      f.get line (direction.toggle.nextColumn column) :=
  Grid.get_ofFn _ _ _

@[simp] theorem get_rotate_next (direction : Direction) (f : Frame) (line : Fin lcdLines)
    (column : Fin lcdColumns) :
    (f.rotate direction).get line (direction.nextColumn column) = f.get line column := by
  rw [get_rotate, Direction.nextColumn_toggle]

/-- A tick moves every line of the frame by one column. -/
theorem ofPlan_succ {plan : Plan} (h : plan.direction? = some direction) (tick : Nat) :
    ofPlan plan (tick + 1) = (ofPlan plan tick).rotate direction := by
  apply Grid.ext_get
  intro line column
  -- a placement is on a slot now if it was on the slot before it a tick ago
  have hslot : ∀ p : Placement, (line.val = p.line ∧ column.val = plan.columnAt p (tick + 1)) ↔
      (line.val = p.line ∧ (direction.toggle.nextColumn column).val = plan.columnAt p tick) := by
    intro p
    rw [Plan.columnAt_succ h, direction.eq_next_iff (Plan.columnAt_lt h p tick) column.isLt]
    rfl
  rw [get_rotate, get_ofPlan, get_ofPlan]
  simp only [hslot]

/-- After as many ticks as there are columns the frame is the same. -/
theorem ofPlan_add_columns (plan : Plan) (tick : Nat) :
    ofPlan plan (tick + lcdColumns) = ofPlan plan tick := by
  have hdrawing : drawing plan (tick + lcdColumns) = drawing plan tick := by
    funext p
    rw [drawing, drawing, Plan.columnAt_add_columns]
  rw [ofPlan, ofPlan, hdrawing]

/-- Frames that have moved differ in the slots that have moved. -/
theorem changed_rotate (direction : Direction) (prev next : Frame) :
    ((prev.rotate direction).changed (next.rotate direction)).Perm
      ((prev.changed next).map fun q => (q.1, direction.nextColumn q.2)) := by
  have hinjective : Function.Injective fun q : Fin lcdLines × Fin lcdColumns =>
      (q.1, direction.nextColumn q.2) := by
    intro q r h
    obtain ⟨hline, hcolumn⟩ := Prod.mk.inj h
    exact Prod.ext hline (direction.nextColumn_injective hcolumn)
  refine (List.perm_ext_iff_of_nodup (nodup_changed _ _)
    ((nodup_changed prev next).map hinjective)).mpr fun q => ?_
  rw [mem_changed, get_rotate, get_rotate, List.mem_map]
  constructor
  · intro hne
    refine ⟨(q.1, direction.toggle.nextColumn q.2), mem_changed.mpr hne, ?_⟩
    have hback := direction.toggle.nextColumn_toggle q.2
    rw [Direction.toggle_toggle] at hback
    exact Prod.ext rfl hback
  · rintro ⟨r, hr, rfl⟩
    rw [Direction.nextColumn_toggle]
    exact mem_changed.mp hr

/-- The difference of frames that have moved has moved as well, up to the order of its writes. -/
theorem diff_rotate (direction : Direction) (prev next : Frame) :
    ((prev.rotate direction).diff (next.rotate direction)).Perm
      ((prev.diff next).map (SlotWrite.rotate direction)) := by
  have hmoved := (changed_rotate direction prev next).map fun q : Fin lcdLines × Fin lcdColumns =>
    (⟨q.1, q.2, (next.rotate direction).get q.1 q.2⟩ : SlotWrite)
  rw [List.map_map] at hmoved
  rw [diff_eq_map, diff_eq_map, List.map_map]
  refine hmoved.trans (List.Perm.of_eq ?_)
  refine List.map_congr_left fun q _ => ?_
  simp only [Function.comp_apply, get_rotate_next]
  rfl

end Frame

/-! ## Rounds -/

namespace Plan

variable {plan : Plan} {direction : Direction}

theorem writes_of_isPartial (hpartial : plan.isPartial = true) (round : Nat) :
    (Cycle.ofPlan plan round).writes =
      (plan.frameBefore round).diff (Frame.ofPlan plan round) := by
  rw [Cycle.ofPlan_of_isPartial hpartial]

/-- From the second round on what the display shows before a round moves as the frames do. -/
theorem frameBefore_succ (h : plan.direction? = some direction) {round : Nat} (hround : 1 ≤ round) :
    plan.frameBefore (round + 1) = (plan.frameBefore round).rotate direction := by
  obtain ⟨k, rfl⟩ := Nat.exists_eq_add_of_le' hround
  exact Frame.ofPlan_succ h k

/-- From the second round on a partial round writes what the round before it wrote, moved. -/
theorem writes_succ (h : plan.direction? = some direction) (hpartial : plan.isPartial = true)
    {round : Nat} (hround : 1 ≤ round) :
    (Cycle.ofPlan plan (round + 1)).writes.Perm
      ((Cycle.ofPlan plan round).writes.map (SlotWrite.rotate direction)) := by
  rw [writes_of_isPartial hpartial, writes_of_isPartial hpartial, frameBefore_succ h hround,
    Frame.ofPlan_succ h]
  exact Frame.diff_rotate direction _ _

/-- From the second round on partial rounds have equally many writes. -/
theorem length_writes (h : plan.direction? = some direction) (hpartial : plan.isPartial = true)
    {round : Nat} (hround : 1 ≤ round) :
    (Cycle.ofPlan plan round).writes.length = (Cycle.ofPlan plan 1).writes.length := by
  induction hround with
  | refl => rfl
  | step hround ih => rw [(writes_succ h hpartial hround).length_eq, List.length_map, ih]

/-- A tick of an animated plan moves every line by one column in its direction, and as many ticks
as there are columns bring every frame back. From the second round on the writes of a partial round
are those of the round before it, moved as well, so that all these rounds have equally many. -/
theorem frames_rotate {plan : Plan} {direction : Direction}
    (h : plan.direction? = some direction) (tick : Nat) :
    Frame.ofPlan plan (tick + 1) = (Frame.ofPlan plan tick).rotate direction ∧
    Frame.ofPlan plan (tick + lcdColumns) = Frame.ofPlan plan tick ∧
    (plan.isPartial = true → 1 ≤ tick →
      (Cycle.ofPlan plan (tick + 1)).writes.Perm
        ((Cycle.ofPlan plan tick).writes.map (SlotWrite.rotate direction)) ∧
      (Cycle.ofPlan plan tick).writes.length = (Cycle.ofPlan plan 1).writes.length) := by
  refine ⟨Frame.ofPlan_succ h tick, Frame.ofPlan_add_columns plan tick, ?_⟩
  intro hpartial htick
  exact ⟨writes_succ h hpartial htick, length_writes h hpartial htick⟩

/-- Two placements on one slot, one below the display and one that starts far to the right of it.
The first round writes two characters, and the others erase where they were as well. -/
theorem frames_rotate_any_placements :
    let plan := Plan.buffered [⟨0, 4, 7⟩, ⟨0, 4, 9⟩, ⟨5, 3, 1⟩, ⟨1, 255, 2⟩] .left 250
    plan.direction? = some .left ∧ plan.isPartial = true ∧
      Grid.get (Frame.ofPlan plan 16) 1 15 = some 2 ∧
      Frame.ofPlan plan 17 = (Frame.ofPlan plan 16).rotate .left ∧
      Frame.ofPlan plan 32 = Frame.ofPlan plan 16 ∧
      (Cycle.ofPlan plan 17).writes.Perm
        ((Cycle.ofPlan plan 16).writes.map (SlotWrite.rotate .left)) ∧
      (Cycle.ofPlan plan 0).writes.length = 2 ∧ (Cycle.ofPlan plan 16).writes.length = 4 := by
  intro plan
  obtain ⟨hframe, hback, hrounds⟩ := frames_rotate (show plan.direction? = some .left from rfl) 16
  obtain ⟨hwrites, hlength⟩ := hrounds rfl (by decide)
  refine ⟨rfl, rfl, by decide, hframe, hback, hwrites, by decide, ?_⟩
  rw [hlength]
  decide

end Plan

end CharLcd
