import CharLcd.Proofs.Session.Effect

/-!
# The clipboard

The clipboard is a snapshot: it holds what stood in a cell when that cell was copied last, whatever
has been done since, to that cell too.

- `Session.NothingCopied`, `Session.LastCopied`: what a run says of copying.
- `Session.clipboard_of_nothingCopied`, `Session.clipboard_of_lastCopied`: what follows for the
  clipboard; `nothingCopied_or_lastCopied` says that one of the two is the case.
- `Session.clipboard_holds_last_copy`: the clipboard after any run, and what is pasted.
-/

namespace CharLcd.Session

section

variable (s : Session)

theorem performAll_append (ops ops' : List Operation) :
    s.performAll (ops ++ ops') = (s.performAll ops).performAll ops' :=
  List.foldl_append ..

/-- Copying succeeds exactly if there is a bitmap to be copied. -/
theorem copyCell_snd (line column : Nat) :
    (s.copyCell line column).2 =
      ((Operation.copyCell line column).copied? s.display).isSome := by
  simp only [copyCell, Operation.copied?]
  cases s.display.get? line column <;> rfl

/-! ## Runs -/

/-- In a run no copy succeeds. -/
def NothingCopied (s : Session) (ops : List Operation) : Prop :=
  ∀ before line column after, ops = before ++ .copyCell line column :: after →
    ((s.performAll before).copyCell line column).2 = false

/-- In a run a copy succeeds, of a cell that holds the bitmap at that moment, and no copy succeeds
after it. -/
def LastCopied (s : Session) (ops : List Operation) (b : Bitmap) : Prop :=
  ∃ before line column after, ops = before ++ .copyCell line column :: after ∧
    ((s.performAll before).copyCell line column).2 = true ∧
    (s.performAll before).display.get? line column = some b ∧
    NothingCopied ((s.performAll before).perform (.copyCell line column)) after

theorem nothingCopied_nil : s.NothingCopied [] := by
  intro before line column after hops
  simp at hops

/-- No copy succeeds in a run if the first operation copies nothing and no copy succeeds in the
rest. -/
theorem nothingCopied_cons {op : Operation} {ops : List Operation}
    (hop : op.copied? s.display = none) (hops : (s.perform op).NothingCopied ops) :
    s.NothingCopied (op :: ops) := by
  intro before line column after hsplit
  cases before with
  | nil =>
    obtain ⟨rfl, -⟩ := List.cons.inj hsplit
    show (s.copyCell line column).2 = false
    rw [copyCell_snd, hop]
    rfl
  | cons first before =>
    obtain ⟨rfl, rfl⟩ := List.cons.inj hsplit
    exact hops before line column after rfl

theorem NothingCopied.head {s : Session} {op : Operation} {ops : List Operation}
    (h : s.NothingCopied (op :: ops)) : op.copied? s.display = none := by
  cases op with
  | copyCell line column =>
    have hfailed : (s.copyCell line column).2 = false := h [] line column ops rfl
    rw [copyCell_snd] at hfailed
    exact Option.not_isSome_iff_eq_none.mp (ne_true_of_eq_false hfailed)
  | _ => rfl

theorem NothingCopied.tail {s : Session} {op : Operation} {ops : List Operation}
    (h : s.NothingCopied (op :: ops)) : (s.perform op).NothingCopied ops := by
  rintro before line column after rfl
  exact h (op :: before) line column after rfl

theorem LastCopied.cons {s : Session} {op : Operation} {ops : List Operation} {b : Bitmap}
    (h : (s.perform op).LastCopied ops b) : s.LastCopied (op :: ops) b := by
  obtain ⟨before, line, column, after, rfl, hcopied, hb, hafter⟩ := h
  exact ⟨op :: before, line, column, after, rfl, hcopied, hb, hafter⟩

/-- The first operation is the only copy that succeeds. -/
theorem lastCopied_cons {op : Operation} {ops : List Operation} {b : Bitmap}
    (hop : op.copied? s.display = some b) (hops : (s.perform op).NothingCopied ops) :
    s.LastCopied (op :: ops) b := by
  cases op with
  | copyCell line column =>
    refine ⟨[], line, column, ops, rfl, ?_, hop, hops⟩
    show (s.copyCell line column).2 = true
    rw [copyCell_snd, hop]
    rfl
  | _ => cases hop

/-- In a run either no copy succeeds, or one is the last that does. -/
theorem nothingCopied_or_lastCopied (ops : List Operation) :
    s.NothingCopied ops ∨ ∃ b, s.LastCopied ops b := by
  induction ops generalizing s with
  | nil => exact .inl s.nothingCopied_nil
  | cons op ops ih =>
    rcases ih (s.perform op) with hnothing | ⟨b, hlast⟩
    · cases hop : op.copied? s.display with
      | none => exact .inl (s.nothingCopied_cons hop hnothing)
      | some b => exact .inr ⟨b, s.lastCopied_cons hop hnothing⟩
    · exact .inr ⟨b, hlast.cons⟩

/-! ## What is on the clipboard -/

/-- A run without a successful copy leaves the clipboard alone. -/
theorem clipboard_of_nothingCopied {ops : List Operation} (h : s.NothingCopied ops) :
    (s.performAll ops).clipboard = s.clipboard := by
  induction ops generalizing s with
  | nil => rfl
  | cons op ops ih =>
    refine (ih (s.perform op) h.tail).trans ?_
    rw [clipboard_perform, h.head, Option.none_or]

/-- The last successful copy of a run decides what is on the clipboard. -/
theorem clipboard_of_lastCopied {ops : List Operation} {b : Bitmap} (h : s.LastCopied ops b) :
    (s.performAll ops).clipboard = some b := by
  obtain ⟨before, line, column, after, rfl, -, hb, hafter⟩ := h
  calc (s.performAll (before ++ .copyCell line column :: after)).clipboard
      = (((s.performAll before).perform (.copyCell line column)).performAll after).clipboard := by
        rw [performAll_append]
        rfl
    _ = ((s.performAll before).perform (.copyCell line column)).clipboard :=
        clipboard_of_nothingCopied _ hafter
    _ = some b := by
        rw [clipboard_perform, Operation.copied?, hb, Option.some_or]

/-! ## Pasting -/

/-- The copied bitmap is put into the cell. -/
theorem display_pasteCell (line : Fin lcdLines) (column : Fin lcdColumns) {b : Bitmap}
    (h : s.clipboard = some b) :
    (s.pasteCell line column).1.display = s.display.set line column b := by
  rw [pasteCell, h]
  exact s.display_setCell_fin line column b

/-- Nothing is pasted if nothing has been copied or there is no such cell. -/
theorem pasteCell_of_not {line column : Nat}
    (h : s.clipboard = none ∨ ¬ CellExists line column) :
    s.pasteCell line column = (s, false) := by
  unfold pasteCell
  split
  next => rfl
  next b hb =>
    refine s.setCell_of_not_exists b (h.resolve_left ?_)
    rw [hb]
    exact nofun

end

/-- After any operations on any design the clipboard is empty exactly if no copy has succeeded, and
it holds a bitmap exactly if the last copy that succeeded was one of a cell that held this bitmap
then. That bitmap is what pasting puts into a cell, and pasting changes no other cell; it changes
nothing if nothing has been copied or there is no such cell. -/
theorem clipboard_holds_last_copy (d : Display) (o : Options) (ops : List Operation) :
    let start := ofDesign d o
    let s := start.performAll ops
    (s.clipboard = none ↔ start.NothingCopied ops) ∧
    (∀ b, s.clipboard = some b ↔ start.LastCopied ops b) ∧
    (∀ (line : Fin lcdLines) (column : Fin lcdColumns) (b : Bitmap), s.clipboard = some b →
      (s.pasteCell line column).1.display = s.display.set line column b) ∧
    (∀ line column, s.clipboard = none ∨ ¬ CellExists line column →
      s.pasteCell line column = (s, false)) := by
  intro start s
  have hnone (h : start.NothingCopied ops) : s.clipboard = none :=
    start.clipboard_of_nothingCopied h
  have hsome {b : Bitmap} (h : start.LastCopied ops b) : s.clipboard = some b :=
    start.clipboard_of_lastCopied h
  refine ⟨⟨?_, hnone⟩, fun b => ⟨?_, hsome⟩, ?_, ?_⟩
  · intro hempty
    rcases start.nothingCopied_or_lastCopied ops with h | ⟨b, h⟩
    · exact h
    · rw [hsome h] at hempty
      cases hempty
  · intro hfull
    rcases start.nothingCopied_or_lastCopied ops with h | ⟨b', h⟩
    · rw [hnone h] at hfull
      cases hfull
    · rw [hsome h] at hfull
      obtain rfl := Option.some.inj hfull
      exact h
  · intro line column b hb
    exact s.display_pasteCell line column hb
  · intro line column h
    exact s.pasteCell_of_not h

/-- The first cell is copied and cleared, a copy beside the display fails, and the display is
cleared. What the cell held can still be pasted, into the last cell for instance. -/
theorem clipboard_holds_last_copy_of_cleared_cell :
    let dot := Bitmap.blank.set 0 0 true
    let ops := [Operation.setPixel 0 0 0 0 true, .copyCell 0 0, .clearCell 0 0, .copyCell 2 0,
      .resetDisplay]
    let start := ofDesign Display.blank {}
    let s := start.performAll ops
    s.clipboard = some dot ∧ start.LastCopied ops dot ∧ ¬ start.NothingCopied ops ∧
      s.display.isBlank = true ∧
      (s.pasteCell 1 15).1.display = s.display.set 1 15 dot ∧
      s.pasteCell 1 16 = (s, false) := by
  intro dot ops start s
  have hdot : s.clipboard = some dot := by decide
  obtain ⟨hnone, hsome, hpaste, hnot⟩ := clipboard_holds_last_copy Display.blank {} ops
  refine ⟨hdot, (hsome dot).mp hdot, ?_, Display.isBlank_iff.mpr rfl, hpaste 1 15 dot hdot,
    hnot 1 16 (.inr ?_)⟩
  · intro h
    have hempty : s.clipboard = none := hnone.mpr h
    rw [hdot] at hempty
    cases hempty
  · rintro ⟨-, hcolumn⟩
    exact absurd hcolumn (by decide)

end CharLcd.Session
