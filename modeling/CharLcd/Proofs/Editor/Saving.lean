import CharLcd.Proofs.Editor.Move

/-!
# Unsaved changes

The mark for unsaved changes stands as long as the design is not the one that was saved or
loaded last.

- `Editor.design`: the design of an editor; `Editor.lastSaved` is the one that was saved or
  loaded last in a run.
- `Reworked.clean`, `clean_of_move`: what leaves no mark leaves the design alone.
- `follow_save_of_write_eq_ok`, `follow_save_of_write_eq_error`: how saving ends.
- `unsaved_changes_marked`: no run loses changes unseen.
-/

namespace CharLcd

open Terminal

/-- Whether a move is saving that succeeds. -/
def Move.saves : Move → Bool
  | .save (.ok ()) => true
  | _ => false

namespace Editor

/-- The design that is edited. -/
def design (s : Editor) : Display × Options := (s.session.display, s.session.options)

/-- The design that was saved last in a run, or `base` if none was saved. -/
def lastSaved (s : Editor) (base : Display × Options) : List Move → Display × Options
  | [] => base
  | m :: ms => (s.move m).lastSaved (if m.saves then s.design else base) ms

/-! ## Moves -/

/-- Work without the mark after an edit had none before, and has the same design. -/
theorem Reworked.clean {s : Editor} {now : Time} {starts : Bool} {w : Work}
    (h : s.Reworked now starts w) (hw : w.dirty = false) :
    s.dirty = false ∧ (w.session.display, w.session.options) = s.design := by
  cases h with
  | untouched => exact ⟨hw, rfl⟩
  | copied b => exact ⟨hw, rfl⟩
  | redrawn d hd => cases hw
  | reset => cases hw
  | adjusted o ho => cases hw
  | started p hstill hstart => exact ⟨hw, rfl⟩
  | stopped => exact ⟨hw, rfl⟩

theorem design_move_of_saves {s : Editor} {m : Move} (h : m.saves = true) :
    (s.move m).design = s.design := by
  unfold Move.saves at h
  split at h
  next => rfl
  next => cases h

/-- Only saving takes the mark away, and a move without saving that leaves no mark leaves the
design alone. -/
theorem clean_of_move {s : Editor} {m : Move} (hm : m.saves = false)
    (h : (s.move m).dirty = false) : s.dirty = false ∧ (s.move m).design = s.design := by
  cases m with
  | event now l e => exact (s.reworked_event now l e).clean h
  | edit now e => exact (s.reworked_edit now e).clean h
  | tick now => exact ⟨h, rfl⟩
  | save result =>
    cases result with
    | ok _ => cases hm
    | error e => exact ⟨h, rfl⟩
  | exportSketch result =>
    cases result with
    | ok _ => exact ⟨h, rfl⟩
    | error e => exact ⟨h, rfl⟩

/-- A run keeps it that an editor without the mark has the design that was saved last. -/
theorem design_moves_of_clean {s : Editor} {base : Display × Options}
    (hs : s.dirty = false → s.design = base) (ms : List Move)
    (hclean : (s.moves ms).dirty = false) : (s.moves ms).design = s.lastSaved base ms := by
  induction ms generalizing s base with
  | nil => exact hs hclean
  | cons m ms ih =>
    refine ih (fun hmove => ?_) hclean
    cases hm : m.saves with
    | true => exact design_move_of_saves hm
    | false =>
      obtain ⟨hbefore, hsame⟩ := clean_of_move hm hmove
      exact hsame.trans (hs hbefore)

/-! ## Saving -/

/-- Saving that succeeds takes the mark away. -/
theorem follow_save_of_write_eq_ok (s : Editor) {files written : FileStore} (size : Size)
    (h : files.write s.path s.fileText = .ok written) :
    ∃ r, s.follow files size .save = some r ∧ r.files = written ∧
      r.editor.session = s.session ∧ r.editor.dirty = false := by
  have hresult : tryWrite files s.path s.fileText = (written, .ok ()) := by
    rw [tryWrite, h]
  unfold follow
  rw [hresult]
  exact ⟨_, rfl, rfl, rfl, rfl⟩

/-- Saving that fails leaves the files, the session and the mark as they were. -/
theorem follow_save_of_write_eq_error (s : Editor) {files : FileStore} (size : Size)
    {e : FileError} (h : files.write s.path s.fileText = .error e) :
    ∃ r, s.follow files size .save = some r ∧ r.files = files ∧
      r.editor.session = s.session ∧ r.editor.dirty = s.dirty := by
  have hresult : tryWrite files s.path s.fileText = (files, .error e) := by
    rw [tryWrite, h]
  unfold follow
  rw [hresult]
  exact ⟨_, rfl, rfl, rfl, rfl⟩

/-- After any run from an opened file, an editor without the mark has the design that was saved
last, or that was loaded if none was. Saving that fails changes nothing. An event quits only
without the mark, or as the answer yes to the question whether to quit. -/
theorem unsaved_changes_marked {path : String} {content : Option (Except FileError String)}
    {config : EditorConfig} {opened : Editor} (h : openFile path content config = .ok opened)
    (ms : List Move) :
    let s := opened.moves ms
    (∃ loaded, foundDesign path content = .ok loaded ∧
      (s.dirty = false → s.design = opened.lastSaved loaded ms)) ∧
    (∀ files size e, files.write s.path s.fileText = .error e →
      ∃ r, s.follow files size .save = some r ∧ r.files = files ∧
        r.editor.session = s.session ∧ r.editor.dirty = s.dirty) ∧
    (∀ now l e, (s.handle now l e).2 = .quit →
      s.dirty = false ∨
        ∃ k yes, e = .key k ∧ s.mode = .asking .quit yes ∧ SaysYes s.config.keys yes k) := by
  intro s
  refine ⟨?_, ?_, ?_⟩
  · obtain ⟨d, o, hfound, rfl⟩ := openFile_eq_ok h
    exact ⟨(d, o), hfound, design_moves_of_clean (fun _ => rfl) ms⟩
  · intro files size e hwrite
    exact s.follow_save_of_write_eq_error size hwrite
  · intro now l e hquit
    obtain ⟨k, hkey, ⟨-, hclean, -⟩ | ⟨yes, hmode, hyes⟩⟩ :=
      (s.handle_eq_quit_iff now l e).mp hquit
    · exact .inl hclean
    · exact .inr ⟨k, yes, hkey, hmode, hyes⟩

/-- A pixel of a new design is set and saved. A design without a path cannot be saved. -/
theorem unsaved_changes_marked_new_design :
    (let opened := ofSession Session.blank "design.json" {}
     let ms := [Move.edit 0 .togglePixel, .save (.ok ())]
     openFile "design.json" none {} = .ok opened ∧ (opened.moves ms).dirty = false ∧
       (opened.moves ms).design = opened.lastSaved (Display.blank, {}) ms) ∧
    (let opened := ofSession Session.blank "" {}
     openFile "" none {} = .ok opened ∧ ∃ r,
       opened.follow FileStore.empty ⟨80, 24⟩ .save = some r ∧ r.files = FileStore.empty ∧
         r.editor.session = opened.session ∧ r.editor.dirty = opened.dirty) := by
  constructor
  · intro opened ms
    have hclean : (opened.moves ms).dirty = false := by decide
    have hopen : openFile "design.json" none {} = .ok opened := rfl
    obtain ⟨⟨loaded, hfound, hdesign⟩, -⟩ := unsaved_changes_marked hopen ms
    rw [← Except.ok.inj hfound] at hdesign
    exact ⟨hopen, hclean, hdesign hclean⟩
  · intro opened
    have hopen : openFile "" none {} = .ok opened := rfl
    have hnames : FileStore.namesOf opened.path = .error .notFound := by
      simp [opened, ofSession, FileStore.namesOf]
    have hwrite : FileStore.empty.write opened.path opened.fileText = .error .notFound := by
      rw [FileStore.write, hnames]
      rfl
    obtain ⟨-, hfails, -⟩ := unsaved_changes_marked hopen []
    exact ⟨hopen, hfails _ _ _ hwrite⟩

end Editor

end CharLcd
