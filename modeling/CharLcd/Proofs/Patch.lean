import CharLcd.Proofs.Cycle
import Mathlib.Data.List.Perm.Subperm

/-!
# The least patch

The difference of two frames writes each slot in which they differ once, in scan order, and no
shorter list of writes leads from one frame to the other. A slot that no write goes to keeps what
it has, so that writes which lead to another frame go to each slot of `Frame.changed`; and no write
goes to two slots.

- `Frame.nodup_changed`, `Frame.changed_comm`: the slots in which two frames differ are the same
  seen from either frame, and none is listed twice.
- `Frame.get_writeAll_of_forall`: a slot that is not written keeps its content.
- `Frame.length_changed_le`: no fewer writes lead from one frame to the other.
- `Frame.LeastPatch`, `Frame.diff_least`: what the difference of two frames is.
-/

namespace CharLcd

/-- The position that a write goes to. -/
def SlotWrite.position (w : SlotWrite) : Nat × Nat := (w.line, w.column)

namespace Frame

variable {f prev next : Frame}

/-! ## Slots that differ -/

/-- No slot is listed twice. -/
theorem nodup_changed (prev next : Frame) : (prev.changed next).Nodup :=
  Grid.nodup_positions.filter _

/-- Frames differ from each other in the same slots. -/
theorem changed_comm (prev next : Frame) : prev.changed next = next.changed prev := by
  exact List.filter_congr fun q _ => decide_eq_decide.mpr ne_comm

theorem position_injective : Function.Injective fun q : Fin lcdLines × Fin lcdColumns =>
    (q.1.val, q.2.val) := by
  intro q r h
  obtain ⟨hline, hcolumn⟩ := Prod.mk.inj h
  exact Prod.ext (Fin.ext hline) (Fin.ext hcolumn)

/-- The writes of a difference go to the slots in which the frames differ. -/
theorem map_position_diff (prev next : Frame) :
    (prev.diff next).map SlotWrite.position =
      (prev.changed next).map fun q => (q.1.val, q.2.val) := by
  rw [diff_eq_map, List.map_map]
  rfl

theorem nodup_diff (prev next : Frame) : (prev.diff next).Nodup := by
  refine List.Nodup.of_map SlotWrite.position ?_
  rw [map_position_diff]
  exact (nodup_changed prev next).map position_injective

/-! ## Writes that are needed -/

/-- A slot that no write goes to keeps what it has. -/
theorem get_writeAll_of_forall {ws : List SlotWrite} {line : Fin lcdLines}
    {column : Fin lcdColumns} (h : ∀ w ∈ ws, w.position ≠ (line.val, column.val)) :
    (f.writeAll ws).get line column = f.get line column := by
  induction ws generalizing f with
  | nil => rfl
  | cons w ws ih =>
    rw [writeAll_cons, ih fun v hv => h v (List.mem_cons_of_mem w hv), get_write, if_neg]
    rintro ⟨hline, hcolumn⟩
    exact h w List.mem_cons_self (Prod.ext hline.symm hcolumn.symm)

/-- Writes that lead to another frame are at least as many as the slots that differ. -/
theorem length_changed_le {ws : List SlotWrite} (h : prev.writeAll ws = next) :
    (prev.changed next).length ≤ ws.length := by
  have hwritten : (prev.changed next).map (fun q => (q.1.val, q.2.val)) ⊆
      ws.map SlotWrite.position := by
    intro p hp
    obtain ⟨q, hq, rfl⟩ := List.mem_map.mp hp
    rw [mem_changed, ← h] at hq
    by_contra hnone
    refine hq (get_writeAll_of_forall fun w hw heq => hnone ?_).symm
    exact List.mem_map.mpr ⟨w, hw, heq⟩
  have hnodup := (nodup_changed prev next).map position_injective
  calc (prev.changed next).length
      = ((prev.changed next).map fun q => (q.1.val, q.2.val)).length := (List.length_map _).symm
    _ ≤ (ws.map SlotWrite.position).length := (hnodup.subperm hwritten).length_le
    _ = ws.length := List.length_map _

/-! ## The difference of two frames -/

/-- The writes lead from one frame to another, and none of them can be spared. -/
structure LeastPatch (prev next : Frame) (ws : List SlotWrite) : Prop where
  /-- Carried out in order they lead to the other frame. -/
  leads : prev.writeAll ws = next
  /-- Each goes to a slot of the display and brings what the other frame has there. -/
  brings : Brings ws next
  /-- There is one write for each slot in which the frames differ, and none for the others. -/
  once : ∀ line column, (ws.filter fun w => w.line = line.val ∧ w.column = column.val) =
    if prev.get line column = next.get line column then []
    else [⟨line, column, next.get line column⟩]
  /-- They come in scan order. -/
  ordered : ws.Pairwise fun w v => Grid.Before w.line w.column v.line v.column
  /-- No shorter list of writes leads to the other frame. -/
  shortest : ∀ vs, prev.writeAll vs = next → ws.length ≤ vs.length

theorem filter_diff (prev next : Frame) (line : Fin lcdLines) (column : Fin lcdColumns) :
    ((prev.diff next).filter fun w => w.line = line.val ∧ w.column = column.val) =
      if prev.get line column = next.get line column then []
      else [⟨line, column, next.get line column⟩] := by
  have hat : ∀ w ∈ prev.diff next, w.line = line.val ∧ w.column = column.val →
      prev.get line column ≠ next.get line column ∧ w = ⟨line, column, next.get line column⟩ := by
    rintro w hw ⟨hline, hcolumn⟩
    obtain ⟨line', column', hne, rfl⟩ := mem_diff.mp hw
    obtain rfl := Fin.ext hline
    obtain rfl := Fin.ext hcolumn
    exact ⟨hne, rfl⟩
  split
  next hsame =>
    refine List.filter_eq_nil_iff.mpr fun w hw h => ?_
    exact (hat w hw (of_decide_eq_true h)).1 hsame
  next hne =>
    -- both lists have this one write, and neither has it twice
    refine List.perm_singleton.mp ((List.perm_ext_iff_of_nodup ((nodup_diff prev next).filter _)
      (List.nodup_singleton _)).mpr fun w => ?_)
    rw [List.mem_filter, List.mem_singleton, decide_eq_true_iff]
    constructor
    · rintro ⟨hw, h⟩
      exact (hat w hw h).2
    · rintro rfl
      exact ⟨mem_diff.mpr ⟨line, column, hne, rfl⟩, rfl, rfl⟩

theorem pairwise_diff (prev next : Frame) : (prev.diff next).Pairwise fun w v =>
    Grid.Before w.line w.column v.line v.column := by
  rw [diff_eq_map, List.pairwise_map]
  exact Grid.pairwise_positions.filter _

/-- The difference of two frames is the shortest list of writes that leads from one to the other,
in scan order, and the difference the other way round writes the same positions. -/
theorem diff_least (prev next : Frame) :
    prev.LeastPatch next (prev.diff next) ∧
      (next.diff prev).map SlotWrite.position = (prev.diff next).map SlotWrite.position := by
  constructor
  · refine ⟨writeAll_diff prev next, brings_diff prev next, filter_diff prev next,
      pairwise_diff prev next, ?_⟩
    intro vs hvs
    rw [diff_eq_map, List.length_map]
    exact length_changed_le hvs
  · rw [map_position_diff, map_position_diff, changed_comm]

end Frame

end CharLcd
