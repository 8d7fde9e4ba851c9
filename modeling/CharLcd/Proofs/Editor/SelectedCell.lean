import CharLcd.Proofs.Editor.Event
import CharLcd.Proofs.Editor.Handling

/-!
# What an event can edit

Whatever keys are bound to and wherever the mouse is clicked, an event edits the selected cell or
the options or copies the cell. Only the answer yes to the question whether to clear the cells
reaches further.

- `Editor.Edited`: what an edit does to the session (`edited_edit`).
- `Editor.editOf?_eq_some`: which events make which edits.
- `Editor.EventEdited`: all that an event can do to the session, and which events do it
  (`eventEdited_handle`).
- `Editor.selects_or_edits`: no event does both.
- `Editor.event_edits_selected_cell`: what an event can change.
-/

namespace CharLcd

open LcdView Terminal

namespace Editor

/-! ## Edits -/

/-- What an edit does to the session of an editor. -/
inductive Edited (s : Editor) : Edit → Session → Prop where
  | retouched (e : Edit) {t : Session} (h : s.session.Retouched s.line s.column t) : s.Edited e t
  | reset : s.Edited .resetDisplay s.session.resetDisplay
  | copied : s.Edited .copyCell { s.session with clipboard := some s.currentCell }
  | adjusted (change : Options → Options) (o : Options) :
    s.Edited (.updateOptions change) (s.session.withOptions o)

section

variable (s : Editor) (now : Time)

theorem edited_paintAt (row column : Nat) :
    s.session.Retouched s.line s.column (s.paintAt row column).session := by
  unfold paintAt
  split
  next => exact .unchanged
  next on _ => exact s.session.retouched_setPixel _ _ _ _ on

theorem session_copyCell :
    s.copyCell.session = { s.session with clipboard := some s.currentCell } := by
  show (s.session.copyCell s.line s.column).1 = _
  rw [Session.copyCell, Grid.get?_fin]
  rfl

theorem edited_edit (e : Edit) : s.Edited e (s.edit now e).session := by
  cases e with
  | togglePixel => exact .retouched _ (s.session.retouched_togglePixel _ _ _ _)
  | beginPaint row column =>
    refine .retouched _ ?_
    show s.session.Retouched s.line s.column (s.beginPaint row column).session
    unfold beginPaint
    split
    next => exact s.session.retouched_setPixel _ _ _ _ _
    next => exact .unchanged
  | paintAt row column => exact .retouched _ (s.edited_paintAt row column)
  | endPaint => exact .retouched _ .unchanged
  | clearCell => exact .retouched _ (s.session.retouched_clearCell _ _)
  | resetDisplay => exact .reset
  | copyCell =>
    show s.Edited .copyCell s.copyCell.session
    rw [session_copyCell]
    exact .copied
  | pasteCell =>
    refine .retouched _ ?_
    show s.session.Retouched s.line s.column s.pasteCell.session
    unfold pasteCell
    split
    next => exact .unchanged
    next => exact s.session.retouched_pasteCell _ _
  | updateOptions change =>
    show s.Edited _ (s.updateOptions now change).work.session
    rw [work_updateOptions]
    unfold Session.updateOptions Session.setOptions
    split
    next => exact .retouched _ .unchanged
    next => exact .adjusted change _
  | togglePlayback =>
    refine .retouched _ ?_
    show s.session.Retouched s.line s.column (s.togglePlayback now).session
    unfold togglePlayback
    split
    next => exact .unchanged
    next => split <;> exact .unchanged

end

/-! ## Events -/

/-- The mouse makes some edits, keys make others, and only the answer yes resets the display. -/
theorem editOf?_eq_some {s : Editor} {l : Layout} {e : Event} {edit : Edit}
    (h : s.editOf? l e = some edit) :
    (∃ m, e = .mouse m ∧ mouseEdit? l m = some edit) ∨
    (∃ k, e = .key k ∧ s.mode = .normal ∧ s.keyEdit? k = some edit) ∨
    (∃ k yes, e = .key k ∧ s.mode = .asking .reset yes ∧ SaysYes s.config.keys yes k ∧
      edit = .resetDisplay) := by
  cases e with
  | key k =>
    dsimp only [editOf?] at h
    split at h
    next hmode => exact .inr (.inl ⟨k, rfl, hmode, h⟩)
    next yes hmode =>
      split at h
      next hyes => exact .inr (.inr ⟨k, yes, rfl, hmode, hyes, (Option.some.inj h).symm⟩)
      next => cases h
    next => cases h
  | mouse m =>
    dsimp only [editOf?] at h
    split at h
    next => exact .inl ⟨m, rfl, h⟩
    next => cases h
  | _ => cases h

/-- The mouse only paints. -/
theorem paints_of_mouseEdit? {l : Layout} {m : Mouse} {edit : Edit}
    (h : mouseEdit? l m = some edit) :
    (∃ row column, edit = .beginPaint row column) ∨ (∃ row column, edit = .paintAt row column) ∨
      edit = .endPaint := by
  unfold mouseEdit? at h
  split at h
  next =>
    obtain ⟨pixel, -, rfl⟩ := Option.map_eq_some_iff.mp h
    exact .inl ⟨_, _, rfl⟩
  next =>
    obtain ⟨pixel, -, rfl⟩ := Option.map_eq_some_iff.mp h
    exact .inr (.inl ⟨_, _, rfl⟩)
  next => exact .inr (.inr (Option.some.inj h).symm)
  next => cases h

theorem editOf?_eq_reset {s : Editor} {l : Layout} {e : Event}
    (h : s.editOf? l e = some .resetDisplay) :
    ∃ k yes, e = .key k ∧ s.mode = .asking .reset yes ∧ SaysYes s.config.keys yes k := by
  rcases editOf?_eq_some h with ⟨m, -, hm⟩ | ⟨k, -, -, hk⟩ | ⟨k, yes, hkey, hmode, hyes, -⟩
  · rcases paints_of_mouseEdit? hm with ⟨_, _, hpaint⟩ | ⟨_, _, hpaint⟩ | hpaint <;> cases hpaint
  · -- the key that asks whether to clear the cells makes no edit itself
    unfold keyEdit? at hk
    split at hk
    next f _ => cases f <;> cases hk
    next => cases hk
  · exact ⟨k, yes, hkey, hmode, hyes⟩

theorem editOf?_eq_copy {s : Editor} {l : Layout} {e : Event}
    (h : s.editOf? l e = some .copyCell) :
    ∃ k, e = .key k ∧ s.mode = .normal ∧
      Request.ofKey? s.config.keys k = some (.function .copyCell) := by
  rcases editOf?_eq_some h with ⟨m, -, hm⟩ | ⟨k, hkey, hmode, hk⟩ | ⟨k, yes, -, -, -, hreset⟩
  · rcases paints_of_mouseEdit? hm with ⟨_, _, hpaint⟩ | ⟨_, _, hpaint⟩ | hpaint <;> cases hpaint
  · refine ⟨k, hkey, hmode, ?_⟩
    unfold keyEdit? at hk
    split at hk
    next f hf =>
      rw [hf]
      cases f with
      | copyCell => rfl
      | _ => cases hk
    next => cases hk
  · cases hreset

theorem editOf?_eq_update {s : Editor} {l : Layout} {e : Event} {change : Options → Options}
    (h : s.editOf? l e = some (.updateOptions change)) : ∃ k, e = .key k ∧ s.mode = .normal := by
  rcases editOf?_eq_some h with ⟨m, -, hm⟩ | ⟨k, hkey, hmode, -⟩ | ⟨k, yes, -, -, -, hreset⟩
  · rcases paints_of_mouseEdit? hm with ⟨_, _, hpaint⟩ | ⟨_, _, hpaint⟩ | hpaint <;> cases hpaint
  · exact ⟨k, hkey, hmode⟩
  · cases hreset

/-- What an event can do to the session of an editor. -/
inductive EventEdited (s : Editor) (e : Event) : Session → Prop where
  | retouched {t : Session} (h : s.session.Retouched s.line s.column t) : s.EventEdited e t
  | reset (hyes : ∃ k yes, e = .key k ∧ s.mode = .asking .reset yes ∧
      SaysYes s.config.keys yes k) :
    s.EventEdited e s.session.resetDisplay
  | copied (hcopy : ∃ k, e = .key k ∧ s.mode = .normal ∧
      Request.ofKey? s.config.keys k = some (.function .copyCell)) :
    s.EventEdited e { s.session with clipboard := some s.currentCell }
  | adjusted (o : Options) (hkey : ∃ k, e = .key k ∧ s.mode = .normal) :
    s.EventEdited e (s.session.withOptions o)

section

variable (s : Editor) (now : Time) (l : Layout) (e : Event)

theorem eventEdited_handle : s.EventEdited e (s.handle now l e).1.session := by
  have hsession : (s.handle now l e).1.session = ((s.editOf? l e).elim s (s.edit now)).session :=
    congrArg Work.session (s.work_handle now l e)
  rw [hsession]
  cases hedit : s.editOf? l e with
  | none => exact .retouched .unchanged
  | some edit =>
    have hedited := s.edited_edit now edit
    show s.EventEdited e (s.edit now edit).session
    generalize (s.edit now edit).session = t at hedited ⊢
    cases hedited with
    | retouched _ h => exact .retouched h
    | reset => exact .reset (editOf?_eq_reset hedit)
    | copied => exact .copied (editOf?_eq_copy hedit)
    | adjusted change o => exact .adjusted o (editOf?_eq_update hedit)

/-- No function of a key selects another cell and edits. -/
theorem selects_or_edits_perform (f : KeyFunction) :
    (s.perform now f).line = s.line ∧ (s.perform now f).column = s.column ∨
      (s.perform now f).session = s.session := by
  cases hedit : f.edit? s.config.intervalStep with
  | none =>
    have hwork := s.work_perform now f
    rw [hedit] at hwork
    exact .inr (congrArg Work.session hwork)
  | some edit =>
    have hperform : s.perform now f = s.edit now edit := by
      cases f <;> cases hedit <;> rfl
    rw [hperform]
    exact .inl ⟨s.line_edit now edit, s.column_edit now edit⟩

/-- No event selects another cell and edits. -/
theorem selects_or_edits :
    (s.handle now l e).1.line = s.line ∧ (s.handle now l e).1.column = s.column ∨
      (s.handle now l e).1.session = s.session := by
  have h := s.handled_handle now l e
  generalize s.handle now l e = r at h ⊢
  cases h with
  | moved a =>
    rw [arrow_eq]
    exact .inl ⟨rfl, rfl⟩
  | performed f => exact selects_or_edits_perform { s with status := none } now f
  | answered q yes said =>
    rw [answer_eq]
    exact .inl ⟨rfl, rfl⟩
  | pressed row column =>
    exact .inl ⟨s.line_edit now (.beginPaint row column),
      s.column_edit now (.beginPaint row column)⟩
  | selected line column => exact .inr (congrArg Work.session (s.work_selectCell line column))
  | dragged row column =>
    exact .inl ⟨line_edit _ now (.paintAt row column), column_edit _ now (.paintAt row column)⟩
  | _ => exact .inl ⟨rfl, rfl⟩

end

/-- Unless it is the answer yes to the question whether to clear the cells, an event leaves all
cells alone but the one that is selected before it. The options change only by a key while no
question is open, and not together with the display. The copied bitmap changes only by a key that
is bound to copying, and is then that of the selected cell. No event selects another cell and
changes the display. -/
theorem event_edits_selected_cell (s : Editor) (now : Time) (l : Layout) (e : Event) :
    let before := s.session
    let after := (s.handle now l e).1.session
    (¬ (∃ k yes, e = .key k ∧ s.mode = .asking .reset yes ∧ SaysYes s.config.keys yes k) →
      ∀ line column, ¬ (line = s.line ∧ column = s.column) →
        after.display.get line column = before.display.get line column) ∧
    (after.options ≠ before.options → ∃ k, e = .key k ∧ s.mode = .normal) ∧
    (after.display = before.display ∨ after.options = before.options) ∧
    (after.clipboard ≠ before.clipboard →
      (∃ k, e = .key k ∧ s.mode = .normal ∧ s.config.keys.accepts .copyCell k = true) ∧
      after.clipboard = some (before.display.get s.line s.column)) ∧
    ((s.handle now l e).1.line = s.line ∧ (s.handle now l e).1.column = s.column ∨
      after.display = before.display) := by
  intro before after
  have hafter : s.EventEdited e after := s.eventEdited_handle now l e
  have hselects := s.selects_or_edits now l e
  refine ⟨?_, ?_, ?_, ?_, hselects.imp_right (congrArg Session.display)⟩
  all_goals
    clear hselects
    clear_value after
  · intro hno line column hother
    cases hafter with
    | retouched h =>
      refine h.get_eq ?_
      rintro ⟨hline, hcolumn⟩
      exact hother ⟨Fin.ext hline, Fin.ext hcolumn⟩
    | reset hyes => exact absurd hyes hno
    | copied | adjusted => rfl
  · intro hchanged
    cases hafter with
    | retouched h => exact absurd h.options_eq hchanged
    | reset | copied => exact absurd rfl hchanged
    | adjusted o hkey => exact hkey
  · cases hafter with
    | retouched h => exact .inr h.options_eq
    | reset => exact .inr rfl
    | copied | adjusted => exact .inl rfl
  · intro hchanged
    cases hafter with
    | retouched h => exact absurd h.clipboard_eq hchanged
    | reset | adjusted => exact absurd rfl hchanged
    | copied hcopy =>
      obtain ⟨k, hkey, hmode, hrequest⟩ := hcopy
      refine ⟨⟨k, hkey, hmode, ?_⟩, rfl⟩
      exact List.find?_some (p := Request.accepts s.config.keys k) hrequest

/-- The key `p` is bound to pasting and to copying. In the second cell, with nothing copied so far,
it copies the cell, for copying is tried first; a click then changes a pixel of that cell only. -/
theorem event_edits_selected_cell_clashing_keys :
    let l := Layout.ofSize ⟨160, 50⟩
    let config : EditorConfig := { keys := ({} : KeyBindings).bind .copyCell "p" }
    let s := (ofSession (Session.ofDesign Display.blank {}) "design.json" config).stepCell 1
    let copy := Event.key ⟨.char 'p', {}⟩
    let copied := (s.handle 0 l copy).1
    let press := Event.mouse ⟨.down .left, 4, 15⟩
    let pressed := (copied.handle 0 l press).1
    copied.session.clipboard ≠ s.session.clipboard ∧
      copied.session.clipboard = some (s.session.display.get s.line s.column) ∧
      pressed.session.display ≠ copied.session.display ∧
      pressed.session.options = copied.session.options ∧
      (∀ line column, ¬ (line = copied.line ∧ column = copied.column) →
        pressed.session.display.get line column = copied.session.display.get line column) := by
  intro l config s copy copied press pressed
  have hcopied : copied.session.clipboard ≠ s.session.clipboard := by decide
  have hpressed : pressed.session.display ≠ copied.session.display := by decide +kernel
  obtain ⟨-, -, -, hclipboard, -⟩ := event_edits_selected_cell s 0 l copy
  obtain ⟨hcells, -, hoptions, -, -⟩ := event_edits_selected_cell copied 0 l press
  refine ⟨hcopied, (hclipboard hcopied).2, hpressed, hoptions.resolve_left hpressed, hcells ?_⟩
  rintro ⟨k, -, hkey, -⟩
  exact Event.noConfusion hkey

end Editor

end CharLcd
