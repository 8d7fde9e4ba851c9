import CharLcd.Editor.Loop
import CharLcd.Proofs.Editor.Event

/-!
# Runs of an editor

In a run an editor takes events and edits, time passes, and the design and the sketch are
written with any result, in any order.

- `Move`, `Editor.move`: one of these, and the editor after it; `Editor.moves` for a run.
- `Editor.foundDesign`: the design that an editor begins with (`openFile_eq_ok`).
- `Editor.reworked_event`: an event does to the work what its edit does.
- `Editor.step_move`: a move is a step of the session; `moves_of_step` carries what a step keeps
  over to runs.
- `Editor.exists_moves_of_step`: a round of the editor is a run.
-/

namespace CharLcd

open Terminal

/-- Something that happens to an editor. -/
inductive Move where
  | event (now : Time) (l : Layout) (e : Event)
  | edit (now : Time) (e : Edit)
  /-- The preview is advanced if it is due. -/
  | tick (now : Time)
  | save (result : Except FileError Unit)
  | exportSketch (result : Except FileError Unit)

namespace Editor

/-- The editor after something has happened. -/
def move (s : Editor) : Move → Editor
  | .event now l e => (s.handle now l e).1
  | .edit now e => s.edit now e
  | .tick now => (s.advance now).1
  | .save result => s.reportSave result
  | .exportSketch result => s.reportExport result

/-- The editor after a run. -/
def moves (s : Editor) (ms : List Move) : Editor := ms.foldl move s

@[simp] theorem moves_nil (s : Editor) : s.moves [] = s := rfl

@[simp] theorem moves_cons (s : Editor) (m : Move) (ms : List Move) :
    s.moves (m :: ms) = (s.move m).moves ms := rfl

theorem moves_append (s : Editor) (ms ms' : List Move) :
    s.moves (ms ++ ms') = (s.moves ms).moves ms' :=
  List.foldl_append ..

/-! ## Opening -/

/-- The design in what was found at a path: the blank one when nothing was. -/
def foundDesign (path : String) (content : Option (Except FileError String)) :
    Except LoadError (Display × Options) :=
  match content with
  | none => .ok (Display.blank, {})
  | some content => loadDisplay path content

/-- An editor is opened on the design that is found. -/
theorem openFile_eq_ok {path : String} {content : Option (Except FileError String)}
    {config : EditorConfig} {s : Editor} (h : openFile path content config = .ok s) :
    ∃ d o, foundDesign path content = .ok (d, o) ∧
      s = ofSession (Session.ofDesign d o) path config := by
  unfold openFile at h
  unfold foundDesign
  cases content with
  | none => exact ⟨_, _, rfl, (Except.ok.inj h).symm⟩
  | some content =>
    dsimp only at h ⊢
    cases hload : loadDisplay path content with
    | ok design =>
      rw [hload] at h
      exact ⟨design.1, design.2, rfl, (Except.ok.inj h).symm⟩
    | error e =>
      rw [hload] at h
      cases e <;> cases h

/-! ## Events -/

theorem reworked_event (s : Editor) (now : Time) (l : Layout) (e : Event) :
    s.Reworked now ((s.editOf? l e).any s.starts) (s.handle now l e).1.work := by
  rw [s.work_handle now l e]
  cases s.editOf? l e with
  | none => exact .untouched
  | some edit => exact s.reworked_edit now edit

/-! ## Sessions -/

/-- An edit of the work is a step of the session. -/
theorem Reworked.step {s : Editor} {now : Time} {starts : Bool} {w : Work}
    (h : s.Reworked now starts w) : s.session.Step w.session := by
  cases h with
  | untouched => exact .unchanged
  | copied b => exact .copy b
  | redrawn d hd => exact .redraw d
  | reset => exact .redraw Display.blank
  | adjusted o ho => exact .adjust o
  | started p hstill hstart => exact .unchanged
  | stopped => exact .unchanged

/-- A move is a step of the session. -/
theorem step_move (s : Editor) (m : Move) : s.session.Step (s.move m).session := by
  cases m with
  | event now l e => exact (s.reworked_event now l e).step
  | edit now e => exact (s.reworked_edit now e).step
  | tick now => exact .unchanged
  | save result => cases result <;> exact .unchanged
  | exportSketch result => cases result <;> exact .unchanged

/-- What every step of a session keeps is kept by runs of an editor. -/
theorem moves_of_step {P : Session → Prop} (hstep : ∀ t t', Session.Step t t' → P t → P t')
    {s : Editor} (hs : P s.session) (ms : List Move) : P (s.moves ms).session := by
  induction ms generalizing s with
  | nil => exact hs
  | cons m ms ih => exact ih (hstep _ _ (s.step_move m) hs)

/-! ## Rounds -/

theorem exists_moves_of_follow {s : Editor} {files : FileStore} {size : Size} {a : Action}
    {r : Step} (h : s.follow files size a = some r) : ∃ ms, r.editor = s.moves ms := by
  cases a with
  | ignore =>
    cases h
    exact ⟨[], rfl⟩
  | redraw =>
    cases h
    exact ⟨[], rfl⟩
  | save =>
    cases h
    exact ⟨[.save _], rfl⟩
  | exportSketch =>
    cases h
    exact ⟨[.exportSketch _], rfl⟩
  | quit => cases h

/-- A round of the editor is an event, perhaps a file that is written, and a tick. -/
theorem exists_moves_of_step {s : Editor} {files : FileStore} {now : Time} {size : Size}
    {e : Event} {r : Step} (h : s.step files now size e = some r) :
    ∃ ms, r.editor = s.moves ms := by
  unfold step at h
  dsimp only at h
  split at h
  next => cases h
  next followed hfollow =>
    obtain ⟨ms, hms⟩ := exists_moves_of_follow hfollow
    cases h
    refine ⟨.event now (Layout.ofSize size) e :: (ms ++ [.tick now]), ?_⟩
    rw [moves_cons, moves_append]
    exact congrArg (move · (.tick now)) hms

end Editor

end CharLcd
