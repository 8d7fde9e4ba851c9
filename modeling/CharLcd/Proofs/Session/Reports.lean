import CharLcd.Proofs.Session.Effect

/-!
# What operations report

Every edit has its own way to find out whether it changes anything: some look at what they replace,
some only try, and the options are compared after their interval has been made positive. All of them
report the truth.

- `Session.reply`: what an operation reports; `Session.Reply.succeeded` tells success from failure.
- `Session.perform_of_failed`: what fails changes nothing.
- `Session.UntouchedBeside`: nothing has changed beside a target.
- `Session.reports_tell_changes`: the reports tell exactly whether there was a change, and beside
  what an operation addresses there is none.
-/

namespace CharLcd.Session

/-! ## Reports -/

/-- What an operation reports. -/
inductive Reply where
  | nothing
  /-- Whether anything has changed, or has been copied. -/
  | flag (b : Bool)
  /-- The new state of a pixel, if it exists. -/
  | pixel (on : Option Bool)
  deriving DecidableEq

/-- Whether a report tells of success. -/
def Reply.succeeded : Reply → Bool
  | nothing => true
  | flag b => b
  | pixel on => on.isSome

/-- What an operation reports. -/
def reply (s : Session) : Operation → Reply
  | .setPixel line column row col on => .flag (s.setPixel line column row col on).2
  | .togglePixel line column row col => .pixel (s.togglePixel line column row col).2
  | .setCell line column b => .flag (s.setCell line column b).2
  | .clearCell line column => .flag (s.clearCell line column).2
  | .resetDisplay => .nothing
  | .copyCell line column => .flag (s.copyCell line column).2
  | .pasteCell line column => .flag (s.pasteCell line column).2
  | .setOptions o => .flag (s.setOptions o).2
  | .updateOptions change => .flag (s.updateOptions change).2

section

variable {s : Session} {result : Session × Bool}

theorem Redrawn.reports_iff (h : s.Redrawn result) :
    result.2 = true ↔ result.1.display ≠ s.display := by
  cases h with
  | unchanged => exact ⟨nofun, fun hne => absurd rfl hne⟩
  | changed d hd => exact ⟨fun _ => hd, fun _ => rfl⟩

theorem Redrawn.eq_of_failed (h : s.Redrawn result) (hfailed : result.2 = false) :
    result.1 = s := by
  cases h with
  | unchanged => rfl
  | changed d hd => cases hfailed

end

section

variable (s : Session)

/-- The new state of a pixel is the opposite of its old one. -/
theorem togglePixel_snd (line column row col : Nat) :
    (s.togglePixel line column row col).2 = (s.display.pixel? line column row col).map not := by
  by_cases hexists : PixelExists line column row col
  · obtain ⟨line, column, row, col, rfl, rfl, rfl, rfl⟩ := hexists.exists_fin
    rw [togglePixel_fin, Display.pixel?_fin]
    rfl
  · rw [togglePixel_of_not_exists s hexists, Display.pixel?_eq_none_iff.mpr hexists]
    rfl

/-- A pixel is flipped exactly if it exists. -/
theorem isSome_togglePixel_iff (line column row col : Nat) :
    (s.togglePixel line column row col).2.isSome = true ↔ PixelExists line column row col := by
  rw [togglePixel_snd, Option.isSome_map, Option.isSome_iff_ne_none, ne_eq,
    Display.pixel?_eq_none_iff, Classical.not_not]

/-- The state that is reported for a pixel is its new one, and it had the opposite one before. -/
theorem pixel?_of_togglePixel {line column row col : Nat} {on : Bool}
    (h : (s.togglePixel line column row col).2 = some on) :
    s.display.pixel? line column row col = some (!on) ∧
      (s.togglePixel line column row col).1.display.pixel? line column row col = some on := by
  have hexists : PixelExists line column row col := by
    rw [← s.isSome_togglePixel_iff, h]
    rfl
  obtain ⟨line, column, row, col, rfl, rfl, rfl, rfl⟩ := hexists.exists_fin
  rw [togglePixel_snd, Display.pixel?_fin] at h
  obtain rfl := Option.some.inj h
  have hcovers : (Target.pixel line column row col).covers line column row col = true :=
    (Target.covers_pixel_fin ..).mpr ⟨rfl, rfl, rfl, rfl⟩
  rw [Display.pixel?_fin, Display.pixel?_fin, pixel_togglePixel, if_pos hcovers, Bool.not_not]
  exact ⟨rfl, rfl⟩

theorem setOptions_reports_iff (o : Options) :
    (s.setOptions o).2 = true ↔ (s.setOptions o).1.options ≠ s.options := by
  unfold setOptions
  split
  next => exact ⟨nofun, fun hne => absurd rfl hne⟩
  next hne => exact ⟨fun _ => hne, fun _ => rfl⟩

theorem setOptions_of_failed {o : Options} (h : (s.setOptions o).2 = false) :
    (s.setOptions o).1 = s := by
  unfold setOptions at h ⊢
  split
  next => rfl
  next hne =>
    rw [if_neg hne] at h
    cases h

/-- An operation that fails leaves the whole session as it is. -/
theorem perform_of_failed {op : Operation} (h : (s.reply op).succeeded = false) :
    s.perform op = s := by
  cases op with
  | setPixel line column row col on =>
    exact (s.redrawn_setPixel line column row col on).eq_of_failed h
  | togglePixel line column row col =>
    exact (s.redrawn_togglePixel line column row col).eq_of_failed h
  | setCell line column b => exact (s.redrawn_setCell line column b).eq_of_failed h
  | clearCell line column => exact (s.redrawn_clearCell line column).eq_of_failed h
  | resetDisplay => cases h
  | copyCell line column =>
    by_cases hexists : CellExists line column
    · obtain ⟨line, column, rfl, rfl⟩ := hexists.exists_fin
      simp only [reply, copyCell_fin] at h
      cases h
    · exact congrArg Prod.fst (s.copyCell_of_not_exists hexists)
  | pasteCell line column => exact (s.redrawn_pasteCell line column).eq_of_failed h
  | setOptions o => exact s.setOptions_of_failed h
  | updateOptions change => exact s.setOptions_of_failed h

end

/-! ## Changes -/

/-- Beside a target nothing has changed, and the clipboard has not either. -/
structure UntouchedBeside (p : Target) (s t : Session) : Prop where
  pixel : ∀ l c r k, p.covers l c r k = false → t.display.pixel l c r k = s.display.pixel l c r k
  options : p ≠ .options → t.options = s.options
  clipboard : t.clipboard = s.clipboard

/-- Nothing changes beside what an operation addresses. Only copying changes the clipboard. -/
theorem untouchedBeside_perform (s : Session) {op : Operation} (h : op.copies = false) :
    UntouchedBeside op.target s (s.perform op) where
  pixel l c r k hcovers := by
    rw [pixel_perform, hcovers]
    rfl
  options htarget := by rw [options_perform, Operation.adjust_of_target_ne htarget]
  clipboard := by rw [clipboard_perform, Operation.copied?_of_not_copies h, Option.none_or]

/-- Edits of the display and of the options report exactly whether they changed it or them. A pixel
is flipped exactly if it exists, and its new state is reported. What fails or changes nothing leaves
the whole session as it is; what succeeds does to its target what it is asked for, and changes
nothing beside it. -/
theorem reports_tell_changes (s : Session) :
    (∀ line column row col on, (s.setPixel line column row col on).2 = true ↔
      (s.setPixel line column row col on).1.display ≠ s.display) ∧
    (∀ line column b, (s.setCell line column b).2 = true ↔
      (s.setCell line column b).1.display ≠ s.display) ∧
    (∀ line column, (s.clearCell line column).2 = true ↔
      (s.clearCell line column).1.display ≠ s.display) ∧
    (∀ line column, (s.pasteCell line column).2 = true ↔
      (s.pasteCell line column).1.display ≠ s.display) ∧
    (∀ line column row col,
      ((s.togglePixel line column row col).2.isSome = true ↔
        PixelExists line column row col) ∧
      ∀ on, (s.togglePixel line column row col).2 = some on →
        s.display.pixel? line column row col = some (!on) ∧
        (s.togglePixel line column row col).1.display.pixel? line column row col = some on) ∧
    (∀ o, (s.setOptions o).2 = true ↔ (s.setOptions o).1.options ≠ s.options) ∧
    (∀ change, (s.updateOptions change).2 = true ↔
      (s.updateOptions change).1.options ≠ s.options) ∧
    (∀ op, (s.reply op).succeeded = false → s.perform op = s) ∧
    (∀ op, op.copies = false →
      UntouchedBeside op.target s (s.perform op) ∧
      ∀ l c r k, op.target.covers l c r k = true →
        (s.perform op).display.pixel l c r k =
          op.ink s.clipboard r k (s.display.pixel l c r k)) := by
  refine ⟨?_, ?_, ?_, ?_, ?_, s.setOptions_reports_iff, ?_, ?_, ?_⟩
  · intro line column row col on
    exact (s.redrawn_setPixel line column row col on).reports_iff
  · intro line column b
    exact (s.redrawn_setCell line column b).reports_iff
  · intro line column
    exact (s.redrawn_clearCell line column).reports_iff
  · intro line column
    exact (s.redrawn_pasteCell line column).reports_iff
  · intro line column row col
    exact ⟨s.isSome_togglePixel_iff line column row col, fun on => s.pixel?_of_togglePixel⟩
  · intro change
    exact s.setOptions_reports_iff (change s.options)
  · intro op hfailed
    exact s.perform_of_failed hfailed
  · intro op hcopies
    refine ⟨s.untouchedBeside_perform hcopies, ?_⟩
    intro l c r k hcovers
    rw [pixel_perform, if_pos hcovers]

/-- The last pixel of the last cell is lit. To light it again, or a pixel beside the display, fails
and changes nothing; to flip it puts it out. An interval of nothing becomes another one. -/
theorem reports_tell_changes_last_pixel :
    let s := (ofDesign Display.blank {}).performAll [.setPixel 1 15 7 4 true]
    (s.reply (.setPixel 1 15 7 4 true)).succeeded = false ∧
      s.perform (.setPixel 1 15 7 4 true) = s ∧
      (s.reply (.setPixel 1 16 7 4 true)).succeeded = false ∧
      s.perform (.setPixel 1 16 7 4 true) = s ∧
      (s.togglePixel 1 15 7 4).2 = some false ∧
      s.display.pixel? 1 15 7 4 = some true ∧
      (s.togglePixel 1 15 7 4).1.display.pixel? 1 15 7 4 = some false ∧
      UntouchedBeside (.pixel 1 15 7 4) s (s.togglePixel 1 15 7 4).1 ∧
      (s.setOptions { intervalMs := 0 }).1.options ≠ s.options := by
  intro s
  have hsame : (s.reply (.setPixel 1 15 7 4 true)).succeeded = false := by decide
  have houtside : (s.reply (.setPixel 1 16 7 4 true)).succeeded = false := by decide
  have htoggle : (s.togglePixel 1 15 7 4).2 = some false := by decide
  have hinterval : (s.setOptions { intervalMs := 0 }).2 = true := by decide
  obtain ⟨-, -, -, -, htoggles, hoptions, -, hfailed, hbeside⟩ := reports_tell_changes s
  obtain ⟨hwas, his⟩ := (htoggles 1 15 7 4).2 false htoggle
  exact ⟨hsame, hfailed _ hsame, houtside, hfailed _ houtside, htoggle, hwas, his,
    (hbeside (.togglePixel 1 15 7 4) rfl).1, (hoptions _).mp hinterval⟩

end CharLcd.Session
