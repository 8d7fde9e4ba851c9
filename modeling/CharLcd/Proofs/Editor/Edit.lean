import CharLcd.Editor.State
import CharLcd.Proofs.Session

/-!
# Edits of an editor

The session, the mark for unsaved changes and the preview change by edits only.

- `Edit`, `Editor.edit`: the edits with their arguments, and what they do.
- `Editor.work`: the part of the state that edits are about.
- `Editor.starts`: whether an edit starts the preview, or starts it again.
- `Editor.Reworked`: all that an edit can do to the work (`reworked_edit`).
- `Editor.edit_eq`: what an edit leaves alone; `Editor.paintAfter` is what it leaves to paint.
-/

namespace CharLcd

attribute [local instance] Clock.nanoseconds

/-! ## Edits -/

/-- An edit of the session, or a switch of the preview. Its arguments may name a place that does
not exist. -/
inductive Edit where
  | togglePixel
  | beginPaint (row column : Nat)
  | paintAt (row column : Nat)
  | endPaint
  | clearCell
  | resetDisplay
  | copyCell
  | pasteCell
  | updateOptions (change : Options → Options)
  | togglePlayback

/-- What an editor works on: the session, whether it has unsaved changes, and the preview. -/
structure Work where
  session : Session
  dirty : Bool
  playback : Playback

namespace Editor

/-- Make an edit. -/
def edit (s : Editor) (now : Time) : Edit → Editor
  | .togglePixel => s.togglePixel
  | .beginPaint row column => s.beginPaint row column
  | .paintAt row column => s.paintAt row column
  | .endPaint => s.endPaint
  | .clearCell => s.clearCell
  | .resetDisplay => s.resetDisplay
  | .copyCell => s.copyCell
  | .pasteCell => s.pasteCell
  | .updateOptions change => s.updateOptions now change
  | .togglePlayback => s.togglePlayback now

def work (s : Editor) : Work := ⟨s.session, s.dirty, s.playback⟩

/-- Whether an edit starts the preview: one that stands still when it is asked for, one that plays
when the options change, and each only if the picture moves then. -/
def starts (s : Editor) : Edit → Bool
  | .togglePlayback => !s.playback.isPlaying && s.session.plan.isAnimated
  | .updateOptions change =>
    let session := (s.session.updateOptions change).1
    s.playback.isPlaying && session.options ≠ s.session.options && session.plan.isAnimated
  | _ => false

/-- All that an edit can do to the work of an editor, and whether it starts the preview. -/
inductive Reworked (s : Editor) (now : Time) : Bool → Work → Prop where
  | untouched : s.Reworked now false s.work
  | copied (b : Bitmap) :
    s.Reworked now false { s.work with session := { s.session with clipboard := some b } }
  | redrawn (d : Display) (h : d ≠ s.session.display) :
    s.Reworked now false { s.work with session := s.session.setDisplay d, dirty := true }
  | reset : s.Reworked now false ⟨s.session.resetDisplay, true, .stopped⟩
  | adjusted (o : Options) (h : o.clamped ≠ s.session.options) :
    s.Reworked now (s.playback.isPlaying && (s.session.withOptions o).plan.isAnimated)
      ⟨s.session.withOptions o, true, s.playback.restart now (s.session.withOptions o).plan⟩
  | started (p : Playback) (hstill : s.playback.isPlaying = false)
    (hstart : Playback.start? now s.session.plan = some p) :
    s.Reworked now true { s.work with playback := p }
  | stopped : s.Reworked now false { s.work with playback := .stopped }

section

variable (s : Editor) (now : Time)

theorem reworked_apply {result : Session × Bool} (h : s.session.Redrawn result) :
    s.Reworked now false (s.apply result).work := by
  cases h with
  | unchanged =>
    show s.Reworked now false ⟨s.session, s.dirty || false, s.playback⟩
    rw [Bool.or_false]
    exact .untouched
  | changed d hd =>
    show s.Reworked now false ⟨s.session.setDisplay d, s.dirty || true, s.playback⟩
    rw [Bool.or_true]
    exact .redrawn d hd

theorem reworked_paintAt (row column : Nat) :
    s.Reworked now false (s.paintAt row column).work := by
  unfold paintAt
  split
  next => exact .untouched
  next on _ => exact s.reworked_apply now (s.session.redrawn_setPixel _ _ _ _ on)

theorem reworked_beginPaint (row column : Nat) :
    s.Reworked now false (s.beginPaint row column).work := by
  unfold beginPaint
  split
  next hin =>
    exact s.reworked_apply now (s.session.redrawn_setPixel _ _ _ _ _)
  next => exact .untouched

theorem reworked_copyCell : s.Reworked now false s.copyCell.work := by
  show s.Reworked now false ⟨(s.session.copyCell s.line s.column).1, s.dirty, s.playback⟩
  unfold Session.copyCell
  split
  next => exact .untouched
  next b _ => exact .copied b

theorem reworked_pasteCell : s.Reworked now false s.pasteCell.work := by
  unfold pasteCell
  split
  next => exact .untouched
  next => exact s.reworked_apply now (s.session.redrawn_pasteCell s.line s.column)

theorem reworked_updateOptions (change : Options → Options) :
    s.Reworked now (s.starts (.updateOptions change)) (s.updateOptions now change).work := by
  by_cases hsame : (change s.session.options).clamped = s.session.options
  · have hunchanged : s.session.updateOptions change = (s.session, false) := if_pos hsame
    have hstarts : s.starts (.updateOptions change) = false := by
      simp [starts, hunchanged]
    rw [hstarts, updateOptions, hunchanged]
    exact .untouched
  · have hchanged : s.session.updateOptions change =
        (s.session.withOptions (change s.session.options), true) :=
      if_neg hsame
    have hstarts : s.starts (.updateOptions change) =
        (s.playback.isPlaying && (s.session.updateOptions change).1.plan.isAnimated) := by
      have hother : (s.session.withOptions (change s.session.options)).options ≠
          s.session.options := hsame
      simp only [starts, hchanged, decide_eq_true hother, Bool.and_true]
    rw [hstarts, updateOptions, hchanged]
    exact .adjusted (change s.session.options) hsame

theorem reworked_togglePlayback :
    s.Reworked now (s.starts .togglePlayback) (s.togglePlayback now).work := by
  have hstarts : s.starts .togglePlayback =
      (!s.playback.isPlaying && s.session.plan.isAnimated) := rfl
  rw [hstarts, togglePlayback]
  split
  next hplaying =>
    rw [hplaying]
    exact .stopped
  next hstill =>
    rw [Bool.not_eq_true] at hstill
    split
    next p hstart =>
      have hmoves : s.session.plan.isAnimated = true := by
        rw [← Playback.isSome_start? now, hstart]
        rfl
      rw [hstill, hmoves]
      exact .started p hstill hstart
    next hstart =>
      have hmoves : s.session.plan.isAnimated = false := by
        rw [← Playback.isSome_start? now, hstart]
        rfl
      rw [hstill, hmoves]
      exact .stopped

/-- What an edit does to the work of an editor. -/
theorem reworked_edit (e : Edit) : s.Reworked now (s.starts e) (s.edit now e).work := by
  cases e with
  | togglePixel =>
    exact s.reworked_apply now (s.session.redrawn_togglePixel _ _ _ _)
  | beginPaint row column => exact s.reworked_beginPaint now row column
  | paintAt row column => exact s.reworked_paintAt now row column
  | endPaint => exact .untouched
  | clearCell => exact s.reworked_apply now (s.session.redrawn_clearCell _ _)
  | resetDisplay => exact .reset
  | copyCell => exact s.reworked_copyCell now
  | pasteCell => exact s.reworked_pasteCell now
  | updateOptions change => exact s.reworked_updateOptions now change
  | togglePlayback => exact s.reworked_togglePlayback now

/-! ## The status line -/

theorem work_updateOptions (change : Options → Options) :
    (s.updateOptions now change).work =
      if (s.session.updateOptions change).2 then
        ⟨(s.session.updateOptions change).1, true,
          s.playback.restart now (s.session.updateOptions change).1.plan⟩
      else ⟨(s.session.updateOptions change).1, s.dirty, s.playback⟩ := by
  unfold updateOptions
  cases h : (s.session.updateOptions change).2 with
  | false => simp only [h]; rfl
  | true => simp only [h]; rfl

/-- What an edit does to the work does not depend on the message in the status line. -/
theorem work_edit_status (status : Option String) (e : Edit) :
    ({ s with status }.edit now e).work = (s.edit now e).work := by
  cases e with
  | togglePixel => rfl
  | beginPaint row column =>
    show ({ s with status }.beginPaint row column).work = (s.beginPaint row column).work
    unfold beginPaint
    split <;> rfl
  | paintAt row column =>
    show ({ s with status }.paintAt row column).work = (s.paintAt row column).work
    unfold paintAt
    cases s.paint <;> rfl
  | endPaint => rfl
  | clearCell => rfl
  | resetDisplay => rfl
  | copyCell => rfl
  | pasteCell =>
    show ({ s with status }.pasteCell).work = s.pasteCell.work
    unfold pasteCell
    cases s.session.clipboard <;> rfl
  | updateOptions change =>
    show ({ s with status }.updateOptions now change).work = (s.updateOptions now change).work
    rw [work_updateOptions, work_updateOptions]
  | togglePlayback =>
    show ({ s with status }.togglePlayback now).work = (s.togglePlayback now).work
    unfold togglePlayback
    cases s.playback.isPlaying <;> cases Playback.start? now s.session.plan <;> rfl

/-! ## What edits leave alone -/

/-- What is painted after an edit. -/
def paintAfter (s : Editor) : Edit → Option Bool
  | .beginPaint row column => ((s.currentCell.get? row column).map not).or s.paint
  | .endPaint => none
  | _ => s.paint

/-- Beside the work, an edit changes at most the message, the pixel cursor and what is painted. -/
theorem edit_eq (e : Edit) :
    s.edit now e =
      { s with
        session := (s.edit now e).session, dirty := (s.edit now e).dirty
        playback := (s.edit now e).playback, status := (s.edit now e).status
        pixelRow := (s.edit now e).pixelRow, pixelColumn := (s.edit now e).pixelColumn
        paint := s.paintAfter e } := by
  cases e with
  | beginPaint row column =>
    simp only [edit, beginPaint, paintAfter, Grid.get?]
    split <;> rfl
  | paintAt row column =>
    simp only [edit, paintAt, paintAfter]
    split <;> rfl
  | pasteCell =>
    simp only [edit, pasteCell, paintAfter]
    split <;> rfl
  | updateOptions change =>
    simp only [edit, updateOptions, paintAfter]
    split <;> rfl
  | togglePlayback =>
    simp only [edit, togglePlayback, paintAfter]
    split
    next => rfl
    next => split <;> rfl
  | _ => rfl

theorem line_edit (e : Edit) : (s.edit now e).line = s.line := by
  rw [edit_eq]

theorem column_edit (e : Edit) : (s.edit now e).column = s.column := by
  rw [edit_eq]

theorem mode_edit (e : Edit) : (s.edit now e).mode = s.mode := by
  rw [edit_eq]

theorem paint_edit (e : Edit) : (s.edit now e).paint = s.paintAfter e := by
  rw [edit_eq]

theorem sketchScroll_edit (e : Edit) : (s.edit now e).sketchScroll = s.sketchScroll := by
  rw [edit_eq]

end

end Editor

end CharLcd
