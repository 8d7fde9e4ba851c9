import CharLcd.Session

/-!
# Runs of a session

Whatever is done to a session, in whatever order, its sketch stays that of its
display and its options.

- `Session.Redrawn`: how an edit of the display ends; one lemma for each edit.
- `Session.Retouched`: another bitmap in one cell; one lemma for each edit of a cell.
- `Session.Operation`, `Session.performAll`: the operations with their arguments,
  and a run of them.
- `Session.Step`: all that an operation can do; `performAll_of_step` carries what a
  step keeps over to runs.
- `Session.Current`: the sketch belongs to the display and the options;
  `sketch_current` says so of every session.
-/

namespace CharLcd.Session

/-! ## Edits of the display -/

/-- How an edit of the display ends: nothing has changed, or there is another display;
the report tells which. -/
inductive Redrawn (s : Session) : Session × Bool → Prop where
  | unchanged : Redrawn s (s, false)
  | changed (d : Display) (h : d ≠ s.display) : Redrawn s (s.setDisplay d, true)

theorem redrawn_setPixel (s : Session) (line column row col : Nat) (on : Bool) :
    s.Redrawn (s.setPixel line column row col on) := by
  unfold setPixel
  split
  next => exact .unchanged
  next cell hcell =>
    split
    next => exact .unchanged
    next hpixel =>
      split
      next => exact .unchanged
      next after hafter =>
        split
        next => exact .unchanged
        next d hd =>
          -- the pixel was different before, hence so were the cell and the display
          refine .changed d (Grid.ne_of_set?_eq_some hd ?_)
          rw [hcell]
          intro heq
          exact Grid.ne_of_set?_eq_some hafter hpixel (Option.some.inj heq).symm

theorem redrawn_togglePixel (s : Session) (line column row col : Nat) :
    s.Redrawn ((s.togglePixel line column row col).1,
      (s.togglePixel line column row col).2.isSome) := by
  unfold togglePixel
  split
  next => exact .unchanged
  next after on htoggle =>
    obtain ⟨cell, hcell, hafter⟩ := Option.bind_eq_some_iff.mp htoggle
    split
    next => exact .unchanged
    next d hd =>
      refine .changed d (Grid.ne_of_set?_eq_some hd ?_)
      rw [hcell]
      intro heq
      exact Bitmap.ne_of_toggle?_eq_some hafter (Option.some.inj heq).symm

theorem redrawn_setCell (s : Session) (line column : Nat) (b : Bitmap) :
    s.Redrawn (s.setCell line column b) := by
  unfold setCell
  split
  next => exact .unchanged
  next hcell =>
    split
    next => exact .unchanged
    next d hd => exact .changed d (Grid.ne_of_set?_eq_some hd hcell)

theorem redrawn_clearCell (s : Session) (line column : Nat) :
    s.Redrawn (s.clearCell line column) :=
  s.redrawn_setCell line column Bitmap.blank

theorem redrawn_pasteCell (s : Session) (line column : Nat) :
    s.Redrawn (s.pasteCell line column) := by
  unfold pasteCell
  split
  next => exact .unchanged
  next b _ => exact s.redrawn_setCell line column b

/-! ## Edits of one cell -/

/-- A session, or one that differs from it in the bitmap of one cell. -/
inductive Retouched (s : Session) (line column : Nat) : Session → Prop where
  | unchanged : Retouched s line column s
  | cell (b : Bitmap) {d : Display} (h : s.display.set? line column b = some d) :
    Retouched s line column (s.setDisplay d)

section

variable {s t : Session} {line column : Nat}

/-- All other cells are as before. -/
theorem Retouched.get_eq (h : s.Retouched line column t) {l : Fin lcdLines} {c : Fin lcdColumns}
    (hother : ¬ (l.val = line ∧ c.val = column)) : t.display.get l c = s.display.get l c := by
  cases h with
  | unchanged => rfl
  | cell b h => exact (Grid.get_of_set?_eq_some h l c).trans (if_neg hother)

theorem Retouched.options_eq (h : s.Retouched line column t) : t.options = s.options := by
  cases h <;> rfl

theorem Retouched.clipboard_eq (h : s.Retouched line column t) : t.clipboard = s.clipboard := by
  cases h <;> rfl

end

section

variable (s : Session) (line column : Nat)

theorem retouched_setPixel (row col : Nat) (on : Bool) :
    s.Retouched line column (s.setPixel line column row col on).1 := by
  unfold setPixel
  split
  next => exact .unchanged
  next =>
    split
    next => exact .unchanged
    next =>
      split
      next => exact .unchanged
      next =>
        split
        next => exact .unchanged
        next d hd => exact .cell _ hd

theorem retouched_togglePixel (row col : Nat) :
    s.Retouched line column (s.togglePixel line column row col).1 := by
  unfold togglePixel
  split
  next => exact .unchanged
  next =>
    split
    next => exact .unchanged
    next d hd => exact .cell _ hd

theorem retouched_setCell (b : Bitmap) :
    s.Retouched line column (s.setCell line column b).1 := by
  unfold setCell
  split
  next => exact .unchanged
  next =>
    split
    next => exact .unchanged
    next d hd => exact .cell b hd

theorem retouched_clearCell : s.Retouched line column (s.clearCell line column).1 :=
  s.retouched_setCell line column Bitmap.blank

theorem retouched_pasteCell : s.Retouched line column (s.pasteCell line column).1 := by
  unfold pasteCell
  split
  next => exact .unchanged
  next b _ => exact s.retouched_setCell line column b

end

/-- A pixel that exists is flipped. -/
theorem togglePixel_fin (s : Session) (line : Fin lcdLines) (column : Fin lcdColumns)
    (row : Fin glyphRows) (col : Fin glyphColumns) :
    let cell := s.display.get line column
    s.togglePixel line column row col =
      (s.setDisplay (s.display.set line column (cell.set row col !(cell.get row col))),
        some !(cell.get row col)) := by
  intro cell
  simp only [togglePixel, Grid.get?_fin, Option.bind_some, Bitmap.toggle?_fin, Grid.set?_fin, cell]

/-! ## Operations -/

/-- An operation on a session. Its arguments may name a place that does not exist. -/
inductive Operation where
  | setPixel (line column row col : Nat) (on : Bool)
  | togglePixel (line column row col : Nat)
  | setCell (line column : Nat) (b : Bitmap)
  | clearCell (line column : Nat)
  | resetDisplay
  | copyCell (line column : Nat)
  | pasteCell (line column : Nat)
  | setOptions (o : Options)
  | updateOptions (change : Options → Options)

/-- The session after an operation. -/
def perform (s : Session) : Operation → Session
  | .setPixel line column row col on => (s.setPixel line column row col on).1
  | .togglePixel line column row col => (s.togglePixel line column row col).1
  | .setCell line column b => (s.setCell line column b).1
  | .clearCell line column => (s.clearCell line column).1
  | .resetDisplay => s.resetDisplay
  | .copyCell line column => (s.copyCell line column).1
  | .pasteCell line column => (s.pasteCell line column).1
  | .setOptions o => (s.setOptions o).1
  | .updateOptions change => (s.updateOptions change).1

/-- The session after a sequence of operations. -/
def performAll (s : Session) (ops : List Operation) : Session :=
  ops.foldl perform s

/-- The session with other options, whose interval is at least one millisecond. -/
def withOptions (s : Session) (o : Options) : Session :=
  recompile { s with options := o.clamped }

/-- All that an operation can do to a session. -/
inductive Step (s : Session) : Session → Prop where
  | unchanged : Step s s
  | redraw (d : Display) : Step s (s.setDisplay d)
  | copy (b : Bitmap) : Step s { s with clipboard := some b }
  | adjust (o : Options) : Step s (s.withOptions o)

theorem Redrawn.step {s : Session} {result : Session × Bool} (h : s.Redrawn result) :
    s.Step result.1 := by
  cases h with
  | unchanged => exact .unchanged
  | changed d _ => exact .redraw d

theorem step_copyCell (s : Session) (line column : Nat) : s.Step (s.copyCell line column).1 := by
  unfold copyCell
  split
  next => exact .unchanged
  next b _ => exact .copy b

theorem step_setOptions (s : Session) (o : Options) : s.Step (s.setOptions o).1 := by
  unfold setOptions
  split
  next => exact .unchanged
  next => exact .adjust o

/-- Whether that changes anything or not, the options are the ones that are asked for. -/
theorem options_setOptions (s : Session) (o : Options) :
    (s.setOptions o).1.options = o.clamped := by
  unfold setOptions
  split
  next hsame => exact hsame.symm
  next => rfl

theorem step_perform (s : Session) (op : Operation) : s.Step (s.perform op) := by
  cases op with
  | setPixel line column row col on => exact (s.redrawn_setPixel line column row col on).step
  | togglePixel line column row col => exact (s.redrawn_togglePixel line column row col).step
  | setCell line column b => exact (s.redrawn_setCell line column b).step
  | clearCell line column => exact (s.redrawn_clearCell line column).step
  | resetDisplay => exact .redraw Display.blank
  | copyCell line column => exact s.step_copyCell line column
  | pasteCell line column => exact (s.redrawn_pasteCell line column).step
  | setOptions o => exact s.step_setOptions o
  | updateOptions change => exact s.step_setOptions (change s.options)

/-- What every step keeps is kept by runs. -/
theorem performAll_of_step {P : Session → Prop} (hstep : ∀ s s', Step s s' → P s → P s')
    {s : Session} (hs : P s) (ops : List Operation) : P (s.performAll ops) := by
  induction ops generalizing s with
  | nil => exact hs
  | cons op ops ih => exact ih (hstep s _ (s.step_perform op) hs)

/-! ## Invariants -/

/-- The compiled sketch belongs to the display and the options. -/
def Current (s : Session) : Prop := s.compiled = Compiled.ofDesign s.display s.options

theorem current_ofDesign (d : Display) (o : Options) : (ofDesign d o).Current := rfl

theorem Current.plan {s : Session} (h : s.Current) :
    s.plan = Plan.ofSlots ((GlyphTable.ofDisplay s.display).place s.display) s.options :=
  congrArg Compiled.plan h

theorem Current.isAnimated {s : Session} (h : s.Current) :
    s.plan.isAnimated = s.options.scrolling := by
  rw [h.plan, Plan.isAnimated_ofSlots]

theorem Current.intervalMs_pos {s : Session} (h : s.Current) : 0 < s.plan.intervalMs := by
  rw [h.plan]
  exact Plan.intervalMs_ofSlots_pos _ _

theorem Step.current {s s' : Session} (h : s.Step s') (hs : s.Current) : s'.Current := by
  cases h with
  | unchanged => exact hs
  | redraw d => rfl
  | copy b => exact hs
  | adjust o => rfl

theorem Step.intervalMs_pos {s s' : Session} (h : s.Step s') (hs : 0 < s.options.intervalMs) :
    0 < s'.options.intervalMs := by
  cases h with
  | unchanged => exact hs
  | redraw d => exact hs
  | copy b => exact hs
  | adjust o => exact o.intervalMs_clamped_pos

/-- After any operations on any design the characters, their places, the plan and the sketch are
those of the present display and options. An interval that is positive stays so. -/
theorem sketch_current (d : Display) (o : Options) (ops : List Operation) :
    let s := (ofDesign d o).performAll ops
    s.compiled = Compiled.ofDesign s.display s.options ∧
      s.code = generate s.display s.options ∧
      (0 < o.intervalMs → 0 < s.options.intervalMs) := by
  intro s
  have hcurrent : s.Current :=
    performAll_of_step (fun _ _ => Step.current) (current_ofDesign d o) ops
  refine ⟨hcurrent, congrArg Compiled.code hcurrent, ?_⟩
  intro hpos
  exact performAll_of_step (P := fun s => 0 < s.options.intervalMs)
    (fun _ _ => Step.intervalMs_pos) hpos ops

/-- An interval of nothing becomes one millisecond. -/
theorem sketch_current_least_interval :
    let s := (ofDesign Display.blank {}).performAll [.setOptions { intervalMs := 0 }]
    s.Current ∧ s.options.intervalMs = 1 ∧ 0 < s.options.intervalMs := by
  intro s
  obtain ⟨hcurrent, -, hpos⟩ :=
    sketch_current Display.blank {} [.setOptions { intervalMs := 0 }]
  exact ⟨hcurrent, rfl, hpos (by decide)⟩

end CharLcd.Session
