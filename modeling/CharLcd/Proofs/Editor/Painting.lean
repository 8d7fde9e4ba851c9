import CharLcd.Proofs.Editor.Handling
import CharLcd.Proofs.Editor.Move
import Mathlib.Data.List.Induction

/-!
# Painting with the mouse

The left button goes down on a pixel, the mouse is dragged, and the button goes up. An editor does
not hear the mouse while a question is open: a button that goes up then is missed, and the editor
goes on painting when the question is closed.

- `Dragging`: what a run says of the button; `Editor.Holds` is what an editor has heard of it.
- `Editor.isSome_paint_move`: how a move begins and ends painting; `Editor.isSome_paint_moves` says
  that an editor paints as long as it has heard of a button that is held.
- `Editor.painting_while_button_held`: no run paints without the button, unless the button goes up
  while a question is open.
-/

namespace CharLcd

open LcdView Terminal

/-! ## The button -/

namespace Move

/-- A call of an edit, without an event. -/
def isEdit : Move → Bool
  | .edit _ _ => true
  | _ => false

/-- The left button goes down on a pixel of the magnified cell. -/
def presses : Move → Bool
  | .event _ l (.mouse m) => m.action = .down .left && (l.pixelAt? ⟨m.column, m.row⟩).isSome
  | _ => false

/-- The left button goes up. -/
def releases : Move → Bool
  | .event _ _ (.mouse m) => m.action = .up .left
  | _ => false

/-- The mouse is dragged. -/
def drags : Move → Bool
  | .event _ _ (.mouse ⟨.drag _, _, _⟩) => true
  | _ => false

end Move

/-- In a run the left button has gone down on a pixel, and it has not gone up since. -/
def Dragging (ms : List Move) : Prop :=
  ∃ before m after, ms = before ++ m :: after ∧ m.presses = true ∧ ∀ r ∈ after, r.releases = false

namespace Editor

/-- In a run the left button has gone down on a pixel while no question was open, and it has not
gone up since while none was open. -/
def Holds (s : Editor) (ms : List Move) : Prop :=
  ∃ before m after, ms = before ++ m :: after ∧ m.presses = true ∧
    (s.moves before).mode = .normal ∧
    ∀ a r b, after = a ++ r :: b → r.releases = true →
      (s.moves (before ++ m :: a)).mode ≠ .normal

/-- In a run the left button never goes up while a question is open. -/
def HearsReleases (s : Editor) (ms : List Move) : Prop :=
  ∀ before r after, ms = before ++ r :: after → r.releases = true →
    (s.moves before).mode = .normal

section

variable (s : Editor) (now : Time)

theorem not_holds_nil : ¬ s.Holds [] := by
  rintro ⟨before, m, after, hms, -⟩
  simp at hms

/-- The last move decides whether the button is held after it. -/
theorem holds_concat_iff (ms : List Move) (m : Move) :
    s.Holds (ms ++ [m]) ↔
      (s.moves ms).mode = .normal ∧ m.presses = true ∨
        s.Holds ms ∧ ¬ ((s.moves ms).mode = .normal ∧ m.releases = true) := by
  constructor
  · rintro ⟨before, p, after, hms, hpress, hheard, hreleases⟩
    rcases List.eq_nil_or_concat after with rfl | ⟨after, last, rfl⟩
    · -- the button has just gone down
      obtain ⟨rfl, hm⟩ := List.append_inj' hms rfl
      obtain rfl := (List.cons.inj hm).1
      exact .inl ⟨hheard, hpress⟩
    · rw [List.concat_eq_append, ← List.cons_append, ← List.append_assoc] at hms
      obtain ⟨rfl, hm⟩ := List.append_inj' hms rfl
      obtain rfl := (List.cons.inj hm).1
      refine .inr ⟨⟨before, p, after, rfl, hpress, hheard, ?_⟩, ?_⟩
      · rintro a r b rfl hr
        exact hreleases a r (b ++ [m]) (by simp) hr
      · rintro ⟨hmode, hr⟩
        exact hreleases after m [] (by simp) hr hmode
  · rintro (⟨hheard, hpress⟩ | ⟨⟨before, p, after, rfl, hpress, hheard, hreleases⟩, hm⟩)
    · refine ⟨ms, m, [], rfl, hpress, hheard, ?_⟩
      intro a r b hafter
      simp at hafter
    · refine ⟨before, p, after ++ [m], by simp, hpress, hheard, ?_⟩
      intro a r b hafter hr
      rcases List.eq_nil_or_concat b with rfl | ⟨b, last, rfl⟩
      · obtain ⟨rfl, hlast⟩ := List.append_inj' hafter rfl
        obtain rfl := (List.cons.inj hlast).1
        intro hmode
        exact hm ⟨hmode, hr⟩
      · rw [List.concat_eq_append, ← List.cons_append, ← List.append_assoc] at hafter
        obtain ⟨rfl, -⟩ := List.append_inj' hafter rfl
        exact hreleases a r b rfl hr

/-- A button that an editor knows to be held is held, if no release has been missed. -/
theorem Holds.dragging {s : Editor} {ms : List Move} (h : s.Holds ms)
    (hheard : s.HearsReleases ms) : Dragging ms := by
  obtain ⟨before, m, after, rfl, hpress, -, hreleases⟩ := h
  refine ⟨before, m, after, rfl, hpress, ?_⟩
  intro r hr
  rw [← Bool.not_eq_true]
  intro hrelease
  obtain ⟨a, b, rfl⟩ := List.append_of_mem hr
  have hsplit : before ++ m :: (a ++ r :: b) = (before ++ m :: a) ++ r :: b := by simp
  exact hreleases a r b rfl hrelease (hheard _ r b hsplit hrelease)

/-! ## Painting -/

theorem paint_selectCell (line column : Nat) : (s.selectCell line column).paint = s.paint := by
  rw [selectCell_eq]

theorem paint_paintAt (row column : Nat) : (s.paintAt row column).paint = s.paint :=
  s.paint_edit 0 (.paintAt row column)

theorem isSome_paint_beginPaint (row : Fin glyphRows) (column : Fin glyphColumns) :
    (s.beginPaint row column).paint.isSome = true := by
  have hpaint : (s.beginPaint row column).paint = s.paintAfter (.beginPaint row column) :=
    s.paint_edit 0 (.beginPaint row column)
  rw [hpaint, paintAfter, Grid.get?_fin]
  rfl

/-- No key paints. -/
theorem paint_perform (f : KeyFunction) : (s.perform now f).paint = s.paint := by
  cases f with
  | nextCell | prevCell => exact s.paint_selectCell _ _
  | pasteCell => exact s.paint_edit now .pasteCell
  | play => exact s.paint_edit now .togglePlayback
  | transmission | numberFormat | scrolling | buffered | direction | slower | faster =>
    exact s.paint_edit now (.updateOptions _)
  | _ => rfl

theorem paint_arrow (a : KeyCode) : (s.arrow a).paint = s.paint := by
  rw [arrow_eq]

theorem paint_answer (q : Question) (said : Bool) : (s.answer q said).1.paint = s.paint := by
  rw [answer_eq]

/-- Painting begins when the button goes down on a pixel and ends when it goes up; neither is heard
while a question is open. -/
theorem isSome_paint_handle (l : Layout) (e : Event) :
    (s.handle now l e).1.paint.isSome = true ↔
      s.mode = .normal ∧ (Move.event now l e).presses = true ∨
        s.paint.isSome = true ∧ ¬ (s.mode = .normal ∧ (Move.event now l e).releases = true) := by
  have h := s.handled_handle now l e
  generalize s.handle now l e = r at h ⊢
  cases h with
  | moved a => simp [paint_arrow, Move.presses, Move.releases]
  | performed f => simp [paint_perform, Move.presses, Move.releases]
  | answered q yes said => simp [paint_answer, Move.presses, Move.releases]
  | unbound | quitting | asked | saving | exporting | marked | unanswered =>
    simp [ask, Move.presses, Move.releases]
  | pressed row column hmode hm hpixel =>
    simp [isSome_paint_beginPaint, Move.presses, hmode, hm, hpixel]
  | selected line column hmode hm hpixel hslot =>
    simp [paint_selectCell, Move.presses, Move.releases, hm, hpixel]
  | dragged row column hmode hm hpixel hpaint =>
    simp [paint_paintAt, Move.presses, Move.releases, hm]
  | released hmode hm => simp [endPaint, Move.presses, Move.releases, hmode, hm]
  | wheeledDown hmode hm => simp [scrollDown, Move.presses, Move.releases, hm]
  | wheeledUp hmode hm => simp [scrollUp, Move.presses, Move.releases, hm]
  | @missed m hmode hdown hm =>
    have hpresses : (Move.event now l (.mouse m)).presses = false := by
      by_cases haction : m.action = .down .left
      · simp [Move.presses, hdown haction]
      · simp [Move.presses, haction]
    have hreleases : (Move.event now l (.mouse m)).releases = false := decide_eq_false hm.1
    simp [hpresses, hreleases]
  | unheard hmode => simp [hmode]
  | resized => simp [Move.presses, Move.releases]
  | other hkey hmouse hresize =>
    cases e with
    | key k => exact absurd rfl (hkey k)
    | mouse m => exact absurd rfl (hmouse m)
    | _ => simp [Move.presses, Move.releases]

/-- What a move does to painting, if it is no call of an edit. -/
theorem isSome_paint_move {m : Move} (hm : m.isEdit = false) :
    (s.move m).paint.isSome = true ↔
      s.mode = .normal ∧ m.presses = true ∨
        s.paint.isSome = true ∧ ¬ (s.mode = .normal ∧ m.releases = true) := by
  have hother (t : Editor) (ht : t.paint = s.paint) : t.paint.isSome = true ↔
      s.mode = .normal ∧ false = true ∨
        s.paint.isSome = true ∧ ¬ (s.mode = .normal ∧ false = true) := by
    simp [ht]
  cases m with
  | event now l e => exact s.isSome_paint_handle now l e
  | edit now e => cases hm
  | tick now => exact hother _ rfl
  | save result => cases result <;> exact hother _ rfl
  | exportSketch result => cases result <;> exact hother _ rfl

/-- A drag changes nothing unless something is painted. -/
theorem move_of_drags {m : Move} (hm : m.drags = true) (hpaint : s.paint = none) :
    s.move m = s := by
  unfold Move.drags at hm
  split at hm
  next now l b column row =>
    show (s.mouse l ⟨.drag b, column, row⟩).1 = s
    unfold mouse
    cases s.mode with
    | asking q yes => rfl
    | normal =>
      cases b with
      | left =>
        show (s.mouseDrag l ⟨column, row⟩).1 = s
        unfold mouseDrag
        cases l.pixelAt? ⟨column, row⟩ with
        | none => rfl
        | some pixel =>
          rw [hpaint]
          rfl
      | _ => rfl
  next => cases hm

/-- An editor paints as long as it has heard of a button that is held. -/
theorem isSome_paint_moves (hs : s.paint = none) {ms : List Move}
    (hms : ∀ m ∈ ms, m.isEdit = false) : (s.moves ms).paint.isSome = true ↔ s.Holds ms := by
  -- what an editor hears depends on the moves before, so the run grows at its end
  induction ms using List.reverseRecOn with
  | nil =>
    rw [moves_nil, hs]
    exact ⟨nofun, fun h => absurd h s.not_holds_nil⟩
  | append_singleton ms m ih =>
    have hbefore : ∀ m ∈ ms, m.isEdit = false := fun m hm => hms m (List.mem_append_left _ hm)
    have hlast : m.isEdit = false := hms m (List.mem_append_right _ (List.mem_singleton_self m))
    rw [moves_append, holds_concat_iff, ← ih hbefore]
    exact (s.moves ms).isSome_paint_move hlast

end

/-- In any run from an opened design, an editor paints exactly while it has heard of a button that
is held. If the button never goes up while a question is open, it has then gone down on a pixel and
not gone up since; and only then does a drag change a pixel. -/
theorem painting_while_button_held (d : Display) (o : Options) (path : String)
    (config : EditorConfig) {ms : List Move} (hms : ∀ m ∈ ms, m.isEdit = false) :
    let opened := ofSession (Session.ofDesign d o) path config
    let s := opened.moves ms
    (s.paint.isSome = true ↔ opened.Holds ms) ∧
    (opened.HearsReleases ms → s.paint.isSome = true → Dragging ms) ∧
    (∀ m, m.drags = true → (s.move m).session.display ≠ s.session.display →
      opened.Holds ms ∧ (opened.HearsReleases ms → Dragging ms)) := by
  intro opened s
  have hpaint : s.paint.isSome = true ↔ opened.Holds ms := opened.isSome_paint_moves rfl hms
  refine ⟨hpaint, fun hheard hs => (hpaint.mp hs).dragging hheard, ?_⟩
  intro m hdrags hchanged
  have hholds : opened.Holds ms := by
    rw [← hpaint, Option.isSome_iff_ne_none]
    intro hnone
    rw [s.move_of_drags hdrags hnone] at hchanged
    exact hchanged rfl
  exact ⟨hholds, hholds.dragging⟩

/-- The button goes down on a pixel, up, and down again; a question is opened and closed, and the
mouse is dragged to another pixel. -/
theorem painting_while_button_held_question_between :
    let l := Layout.ofSize ⟨160, 50⟩
    let opened := ofSession (Session.ofDesign Display.blank {}) "design.json" {}
    let ms := [Move.event 0 l (.mouse ⟨.down .left, 2, 15⟩),
      .event 0 l (.mouse ⟨.up .left, 2, 15⟩), .event 0 l (.mouse ⟨.down .left, 4, 15⟩),
      .event 0 l (.key ⟨.char 'R', {}⟩), .event 0 l (.key ⟨.char 'n', {}⟩)]
    let drag := Move.event 0 l (.mouse ⟨.drag .left, 6, 15⟩)
    (∀ m ∈ ms, m.isEdit = false) ∧ opened.HearsReleases ms ∧
      (opened.moves ms).paint.isSome = true ∧ opened.Holds ms ∧ drag.drags = true ∧
      ((opened.moves ms).move drag).session.display ≠ (opened.moves ms).session.display ∧
      Dragging ms := by
  intro l opened ms drag
  have hedits : ∀ m ∈ ms, m.isEdit = false := by decide
  have hheard : opened.HearsReleases ms := by
    intro before r after hms hr
    rcases before with _ | ⟨first, _ | ⟨second, before⟩⟩
    · obtain rfl := (List.cons.inj hms).1
      cases hr
    · obtain ⟨rfl, -⟩ := List.cons.inj hms
      decide
    · have hmem : r ∈ ms.drop 2 := by
        rw [hms]
        simp
      have hnone : ∀ m ∈ ms.drop 2, m.releases = false := by decide
      rw [hnone r hmem] at hr
      cases hr
  have hpaint : (opened.moves ms).paint.isSome = true := by decide +kernel
  have hchanged : ((opened.moves ms).move drag).session.display ≠
      (opened.moves ms).session.display := by decide +kernel
  obtain ⟨hholds, -, hdrag⟩ :=
    painting_while_button_held Display.blank {} "design.json" {} hedits
  exact ⟨hedits, hheard, hpaint, hholds.mp hpaint, rfl, hchanged,
    (hdrag drag rfl hchanged).2 hheard⟩

/-- The button goes down on a pixel and up while a question is open. When the question is closed the
editor still paints, and a drag changes another pixel. -/
theorem release_missed_while_asking :
    let l := Layout.ofSize ⟨160, 50⟩
    let opened := ofSession (Session.ofDesign Display.blank {}) "design.json" {}
    let ms := [Move.event 0 l (.mouse ⟨.down .left, 2, 15⟩), .event 0 l (.key ⟨.char 'R', {}⟩),
      .event 0 l (.mouse ⟨.up .left, 2, 15⟩), .event 0 l (.key ⟨.char 'n', {}⟩)]
    let drag := Move.event 0 l (.mouse ⟨.drag .left, 4, 15⟩)
    (opened.moves ms).paint = some true ∧ ¬ Dragging ms ∧
      ((opened.moves ms).move drag).session.display ≠ (opened.moves ms).session.display := by
  intro l opened ms drag
  refine ⟨by decide +kernel, ?_, by decide +kernel⟩
  rintro ⟨before, m, after, hms, hpress, hreleases⟩
  rcases before with _ | ⟨first, before⟩
  · -- after the only press the button goes up
    obtain ⟨-, rfl⟩ := List.cons.inj hms
    exact absurd hreleases (by decide)
  · have hmem : m ∈ ms.drop 1 := by
      rw [hms]
      simp
    have hnone : ∀ m ∈ ms.drop 1, m.presses = false := by decide
    rw [hnone m hmem] at hpress
    cases hpress

end Editor

end CharLcd
