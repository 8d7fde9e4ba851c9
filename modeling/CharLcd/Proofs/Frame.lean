import CharLcd.Frame

/-!
# What writes leave on the display

- `Frame.Brings`: the writes bring slots to what a frame has there;
  `get_writeAll_of_brings` is what they leave in a slot.
- `Frame.changed`: the slots that two frames differ in; `diff_eq_map` says that these are written.
- `Frame.writeAll_diff`: the difference of two frames leads from one to the other.
- `Plan.frameBefore`: what the display shows before a round.
- `Cycle.ofPlan_of_isPartial`, `Cycle.ofPlan_of_not_isPartial`: the rounds of a plan;
  `Cycle.writeAll_ofPlan` says that they lead to its frames.
-/

namespace CharLcd

namespace Frame

/-- Each write puts into its slot what a frame has there. -/
def Brings (ws : List SlotWrite) (next : Frame) : Prop :=
  ∀ w ∈ ws, ∃ (line : Fin lcdLines) (column : Fin lcdColumns),
    w = ⟨line, column, next.get line column⟩

/-- A slot that is written has the content of the frame, any other keeps its own. -/
theorem get_writeAll_of_brings {f next : Frame} {ws : List SlotWrite} (h : Brings ws next)
    (line : Fin lcdLines) (column : Fin lcdColumns) :
    (f.writeAll ws).get line column =
      if ⟨line, column, next.get line column⟩ ∈ ws then next.get line column
      else f.get line column := by
  induction ws generalizing f with
  | nil => rfl
  | cons w ws ih =>
    rw [writeAll_cons, ih fun v hv => h v (List.mem_cons_of_mem w hv), get_write]
    obtain ⟨l, c, rfl⟩ := h w List.mem_cons_self
    -- a later write of the same slot writes the same, so what matters is whether there is one
    by_cases hlater : (⟨line, column, next.get line column⟩ : SlotWrite) ∈ ws
    · rw [if_pos hlater, if_pos (List.mem_cons_of_mem _ hlater)]
    · rw [if_neg hlater]
      by_cases hhere : line.val = l.val ∧ column.val = c.val
      · obtain rfl := Fin.ext hhere.1
        obtain rfl := Fin.ext hhere.2
        rw [if_pos ⟨rfl, rfl⟩, if_pos List.mem_cons_self]
      · rw [if_neg hhere, if_neg]
        rw [List.mem_cons]
        rintro (heq | hmem)
        · injection heq with hline hcolumn
          exact hhere ⟨hline, hcolumn⟩
        · exact hlater hmem

/-- The slots, in scan order, in which two frames differ. -/
def changed (prev next : Frame) : List (Fin lcdLines × Fin lcdColumns) :=
  (Grid.positions lcdLines lcdColumns).filter fun q => prev.get q.1 q.2 ≠ next.get q.1 q.2

theorem mem_changed {prev next : Frame} {q : Fin lcdLines × Fin lcdColumns} :
    q ∈ prev.changed next ↔ prev.get q.1 q.2 ≠ next.get q.1 q.2 := by
  simp [changed]

/-- There is one write for each slot in which the frames differ. -/
theorem diff_eq_map (prev next : Frame) :
    prev.diff next = (prev.changed next).map fun q => ⟨q.1, q.2, next.get q.1 q.2⟩ := by
  unfold diff changed
  induction Grid.positions lcdLines lcdColumns with
  | nil => rfl
  | cons q rest ih =>
    by_cases hsame : prev.get q.1 q.2 = next.get q.1 q.2
    · simpa [List.filterMap_cons, List.filter_cons, hsame] using ih
    · simpa [List.filterMap_cons, List.filter_cons, hsame] using ih

theorem brings_diff (prev next : Frame) : Brings (prev.diff next) next := by
  intro w hw
  obtain ⟨line, column, -, rfl⟩ := mem_diff.mp hw
  exact ⟨line, column, rfl⟩

/-- The difference of two frames leads from one to the other. -/
theorem writeAll_diff (prev next : Frame) : prev.writeAll (prev.diff next) = next := by
  apply Grid.ext_get
  intro line column
  rw [get_writeAll_of_brings (brings_diff prev next)]
  split
  next => rfl
  next hsame =>
    -- a slot that is not written is one in which the frames agree
    by_cases hne : prev.get line column = next.get line column
    · exact hne
    · exact absurd (mem_diff.mpr ⟨line, column, hne, rfl⟩) hsame

end Frame

/-- What the display shows before a round: nothing before the first. -/
def Plan.frameBefore (plan : Plan) : (round : Nat) → Frame
  | 0 => Frame.blank
  | n + 1 => Frame.ofPlan plan n

namespace Cycle

variable {plan : Plan}

/-- A round that is not partial clears the display and draws every placement. -/
theorem ofPlan_of_not_isPartial (h : plan.isPartial = false) (n : Nat) :
    ofPlan plan n = ⟨true, plan.placements.map (Frame.drawing plan n)⟩ := by
  simp only [ofPlan, h]
  rfl

/-- A partial round writes the difference from what the display shows before it. -/
theorem ofPlan_of_isPartial (h : plan.isPartial = true) (n : Nat) :
    ofPlan plan n = ⟨false, (plan.frameBefore n).diff (Frame.ofPlan plan n)⟩ := by
  cases n <;> simp only [ofPlan, h] <;> rfl

/-- The writes of a round lead to its frame, from the one before or from a blank display. -/
theorem writeAll_ofPlan (plan : Plan) (n : Nat) :
    (if (ofPlan plan n).clears then Frame.blank else plan.frameBefore n).writeAll
      (ofPlan plan n).writes = Frame.ofPlan plan n := by
  cases hpartial : plan.isPartial with
  | false =>
    rw [ofPlan_of_not_isPartial hpartial]
    rfl
  | true =>
    rw [ofPlan_of_isPartial hpartial]
    exact Frame.writeAll_diff _ _

end Cycle

end CharLcd
