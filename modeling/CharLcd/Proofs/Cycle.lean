import CharLcd.Proofs.Frame
import CharLcd.Proofs.Scan

/-!
# Rounds of a plan

Whether the rounds draw everything or only what differs, they lead to the frames of the plan. The
plan may be any: placements may lie off the display or on one another.

- `Frame.get_ofPlan`: of the placements on a slot the last one is shown.
- `Frame.EachChanges`: every write changes its slot; `eachChanges_diff` for the difference of two
  frames.
- `Plan.writesBefore`: the writes of all rounds up to one; `writeAll_writesBefore` and
  `eachChanges_writesBefore` say what they do to a blank display.
- `Cycle.rounds_rebuild_frame`: full and partial rounds lead to the frame.
-/

namespace CharLcd

namespace Frame

/-! ## The last write -/

/-- Of the writes into a slot the last one counts. -/
theorem get_writeAll (f : Frame) (ws : List SlotWrite) (line : Fin lcdLines)
    (column : Fin lcdColumns) :
    (f.writeAll ws).get line column =
      ((ws.reverse.find? fun w => line.val = w.line ∧ column.val = w.column).map (·.slot)).getD
        (f.get line column) := by
  induction ws generalizing f with
  | nil => rfl
  | cons w ws ih =>
    rw [writeAll_cons, ih, get_write, List.reverse_cons, List.find?_append]
    cases ws.reverse.find? fun w => line.val = w.line ∧ column.val = w.column with
    | some _ => rfl
    | none =>
      rw [Option.none_or, List.find?_singleton]
      by_cases h : line.val = w.line ∧ column.val = w.column
      · rw [if_pos h, if_pos (decide_eq_true h)]
        rfl
      · rw [if_neg h, if_neg (mt of_decide_eq_true h)]

/-- Of the placements that a tick puts on a slot the last one is shown. -/
theorem get_ofPlan (plan : Plan) (tick : Nat) (line : Fin lcdLines) (column : Fin lcdColumns) :
    Grid.get (ofPlan plan tick) line column =
      (plan.placements.reverse.find? fun p =>
        line.val = p.line ∧ column.val = plan.columnAt p tick).map (·.glyph) := by
  rw [ofPlan, get_writeAll, ← List.map_reverse, List.find?_map, Option.map_map, get_blank]
  show Option.getD (Option.map _ (plan.placements.reverse.find? fun p =>
    line.val = p.line ∧ column.val = plan.columnAt p tick)) none = _
  cases plan.placements.reverse.find? fun p =>
    line.val = p.line ∧ column.val = plan.columnAt p tick <;> rfl

/-! ## Writes that change something -/

/-- Each write goes into a slot of the display and changes what stands there. -/
def EachChanges (f : Frame) : List SlotWrite → Prop
  | [] => True
  | w :: ws => (∃ old, f.get? w.line w.column = some old ∧ old ≠ w.slot) ∧
    (f.write w).EachChanges ws

theorem eachChanges_append {f : Frame} {ws vs : List SlotWrite} :
    f.EachChanges (ws ++ vs) ↔ f.EachChanges ws ∧ (f.writeAll ws).EachChanges vs := by
  induction ws generalizing f with
  | nil => exact (iff_of_eq (true_and _)).symm
  | cons w ws ih =>
    rw [List.cons_append, EachChanges, EachChanges, ih, writeAll_cons, and_assoc]

/-- Bringing what differs at some positions writes only what differs, as long as the positions
that are still to come are as they were. -/
theorem eachChanges_filterMap {f prev next : Frame} {ps : List (Fin lcdLines × Fin lcdColumns)}
    (hnodup : ps.Nodup) (hsame : ∀ p ∈ ps, f.get p.1 p.2 = prev.get p.1 p.2) :
    f.EachChanges (ps.filterMap fun p =>
      if prev.get p.1 p.2 = next.get p.1 p.2 then none
      else some ⟨p.1, p.2, next.get p.1 p.2⟩) := by
  induction ps generalizing f with
  | nil => trivial
  | cons p ps ih =>
    obtain ⟨hp, hnodup⟩ := List.nodup_cons.mp hnodup
    have hrest : ∀ q ∈ ps, f.get q.1 q.2 = prev.get q.1 q.2 := by
      intro q hq
      exact hsame q (List.mem_cons_of_mem p hq)
    rw [List.filterMap_cons]
    by_cases heq : prev.get p.1 p.2 = next.get p.1 p.2
    · rw [if_pos heq]
      exact ih hnodup hrest
    · rw [if_neg heq]
      refine ⟨⟨prev.get p.1 p.2, ?_, heq⟩, ih hnodup ?_⟩
      · rw [Grid.get?_fin, hsame p List.mem_cons_self]
      · intro q hq
        -- the write goes to `p`, which does not come again
        rw [get_write, if_neg, hrest q hq]
        rintro ⟨hline, hcolumn⟩
        exact hp (Prod.ext (Fin.ext hline) (Fin.ext hcolumn) ▸ hq)

/-- The difference of two frames writes only what differs. -/
theorem eachChanges_diff (prev next : Frame) : prev.EachChanges (prev.diff next) :=
  eachChanges_filterMap Grid.nodup_positions fun _ _ => rfl

end Frame

/-! ## Rounds -/

namespace Cycle

/-- The display after a round. -/
def carryOut (c : Cycle) (f : Frame) : Frame :=
  (if c.clears then Frame.blank else f).writeAll c.writes

end Cycle

namespace Plan

variable {plan : Plan}

/-- The writes of all rounds before one. -/
def writesBefore (plan : Plan) (n : Nat) : List SlotWrite :=
  (List.range n).flatMap fun k => (Cycle.ofPlan plan k).writes

theorem writesBefore_succ (plan : Plan) (n : Nat) :
    plan.writesBefore (n + 1) = plan.writesBefore n ++ (Cycle.ofPlan plan n).writes := by
  rw [writesBefore, List.range_succ, List.flatMap_append, List.flatMap_singleton, writesBefore]

/-- Partial rounds lead from a blank display to the frame before the next one. -/
theorem writeAll_writesBefore (h : plan.isPartial = true) (n : Nat) :
    Frame.blank.writeAll (plan.writesBefore n) = plan.frameBefore n := by
  induction n with
  | zero => rfl
  | succ n ih =>
    rw [writesBefore_succ, Frame.writeAll_append, ih, Cycle.ofPlan_of_isPartial h]
    exact Frame.writeAll_diff _ _

/-- No write of a partial round is in vain. -/
theorem eachChanges_writesBefore (h : plan.isPartial = true) (n : Nat) :
    Frame.blank.EachChanges (plan.writesBefore n) := by
  induction n with
  | zero => trivial
  | succ n ih =>
    rw [writesBefore_succ, Frame.eachChanges_append, writeAll_writesBefore h,
      Cycle.ofPlan_of_isPartial h]
    exact ⟨ih, Frame.eachChanges_diff _ _⟩

end Plan

/-- In the frame of a plan each slot shows the last placement there. A round that clears the
display leads to it from any other display. Rounds that do not clear it lead to it from a blank
one, all together, and each of their writes changes a slot. -/
theorem Cycle.rounds_rebuild_frame (plan : Plan) (n : Nat) :
    (∀ line column, Grid.get (Frame.ofPlan plan n) line column =
      (plan.placements.reverse.find? fun p =>
        line.val = p.line ∧ column.val = plan.columnAt p n).map (·.glyph)) ∧
    (plan.isPartial = false →
      (ofPlan plan n).clears = true ∧
      ∀ screen, (ofPlan plan n).carryOut screen = Frame.ofPlan plan n) ∧
    (plan.isPartial = true →
      (∀ k, (ofPlan plan k).clears = false) ∧
      Frame.blank.writeAll (plan.writesBefore (n + 1)) = Frame.ofPlan plan n ∧
      Frame.blank.EachChanges (plan.writesBefore (n + 1))) := by
  refine ⟨Frame.get_ofPlan plan n, ?_, ?_⟩
  · intro h
    rw [ofPlan_of_not_isPartial h]
    exact ⟨rfl, fun _ => rfl⟩
  · intro h
    refine ⟨?_, Plan.writeAll_writesBefore h (n + 1), Plan.eachChanges_writesBefore h (n + 1)⟩
    intro k
    rw [ofPlan_of_isPartial h]

/-- Two placements on one slot, one below the display and one that scrolls onto it. -/
theorem Cycle.rounds_rebuild_frame_any_placements :
    let placements : List Placement := [⟨0, 4, 7⟩, ⟨0, 4, 9⟩, ⟨5, 3, 1⟩, ⟨1, 200, 2⟩]
    let still := Plan.static placements
    let moving := Plan.buffered placements .left 250
    still.isPartial = false ∧ moving.isPartial = true ∧
      (∀ screen, (ofPlan still 3).carryOut screen = Frame.ofPlan still 3) ∧
      Frame.blank.writeAll (moving.writesBefore 4) = Frame.ofPlan moving 3 ∧
      Grid.get (Frame.ofPlan moving 3) 0 1 = some 9 ∧
      Grid.get (Frame.ofPlan moving 3) 1 5 = some 2 := by
  intro placements still moving
  obtain ⟨-, hstill, -⟩ := rounds_rebuild_frame still 3
  obtain ⟨hget, -, hmoving⟩ := rounds_rebuild_frame moving 3
  refine ⟨rfl, rfl, (hstill rfl).2, (hmoving rfl).2.1, ?_, ?_⟩
  · rw [hget]
    decide
  · rw [hget]
    decide

end CharLcd
