import CharLcd.Proofs.Editor.Move
import CharLcd.Proofs.Picture
import CharLcd.Proofs.Playback

/-!
# The preview of an editor

A preview that plays, plays the present plan of the session; one that does not shows the design
as it is edited.

- `Editor.startsBy`, `Editor.ticksBy`: the moves that start the preview and those that advance
  it; `Editor.ticksSinceStart` counts the latter from the former, and is no more than the moves.
- `Work.Previews`: the preview plays the plan of the session; `previews_move` and
  `previews_moves` keep it.
- `preview_plays_plan`: what a run says of the preview.
-/

namespace CharLcd

attribute [local instance] Clock.nanoseconds

/-- The sketch of the session is current. The preview plays its plan and has advanced `n` times,
or it stands still. -/
structure Work.Previews (w : Work) (n : Nat) : Prop where
  current : w.session.Current
  plays : w.playback.Plays w.session.plan n

/-- On tick 0 a slot shows the cell that stands there. -/
theorem Session.Current.show?_frame_zero {s : Session} (h : s.Current) (line : Fin lcdLines)
    (column : Fin lcdColumns) :
    (s.compiled.glyphs.show? (Grid.get (Frame.ofPlan s.plan 0) line column)).getD Bitmap.blank =
      s.display.get line column := by
  rw [Session.plan, h, Compiled.show?_frame_ofDesign, Options.source_zero]

namespace Editor

/-- Whether a move starts the preview, or starts it again. -/
def startsBy (s : Editor) : Move → Bool
  | .event _ l e => (s.editOf? l e).any s.starts
  | .edit _ e => s.starts e
  | _ => false

/-- How often a move advances the preview. -/
def ticksBy (s : Editor) : Move → Nat
  | .tick now => (s.advance now).2.toNat
  | _ => 0

/-- How often the preview has advanced in a run since it was started last, or `n` times more if
it was not started. -/
def ticksSinceStart (s : Editor) (n : Nat) : List Move → Nat
  | [] => n
  | m :: ms => (s.move m).ticksSinceStart (if s.startsBy m then 0 else n + s.ticksBy m) ms

/-- A move adds one tick at most. -/
theorem ticksSinceStart_le (s : Editor) (n : Nat) (ms : List Move) :
    s.ticksSinceStart n ms ≤ n + ms.length := by
  induction ms generalizing s n with
  | nil => exact Nat.le_refl n
  | cons m ms ih =>
    have hticks : s.ticksBy m ≤ 1 := by
      cases m with
      | tick now => exact Bool.toNat_le _
      | _ => exact Nat.zero_le 1
    have hnext : (if s.startsBy m then 0 else n + s.ticksBy m) ≤ n + 1 := by
      split
      next => exact Nat.zero_le _
      next => exact Nat.add_le_add_left hticks n
    calc s.ticksSinceStart n (m :: ms)
        ≤ (if s.startsBy m then 0 else n + s.ticksBy m) + ms.length := ih _ _
      _ ≤ n + 1 + ms.length := Nat.add_le_add_right hnext _
      _ = n + (m :: ms).length := by rw [List.length_cons, Nat.add_right_comm, Nat.add_assoc]

variable {s : Editor} {n : Nat}

theorem Reworked.previews {now : Time} {starts : Bool} {w : Work} (h : s.Reworked now starts w)
    (hs : s.work.Previews n) : w.Previews (if starts then 0 else n) := by
  cases h with
  | untouched => exact hs
  | copied b => exact ⟨hs.current, hs.plays⟩
  | redrawn d hd =>
    have hcurrent : (s.session.setDisplay d).Current := rfl
    refine ⟨hcurrent, hs.plays.congr ?_ ?_⟩
    · exact hcurrent.isAnimated.trans hs.current.isAnimated.symm
    · rw [hcurrent.plan, hs.current.plan]
      exact Plan.intervalMs_ofSlots_congr _ _ _
  | reset => exact ⟨rfl, Playback.plays_stopped _ _⟩
  | adjusted o ho =>
    have hcurrent : (s.session.withOptions o).Current := rfl
    exact ⟨hcurrent, hs.plays.restart hcurrent.intervalMs_pos⟩
  | started p hstill hstart =>
    exact ⟨hs.current, Playback.plays_start? hs.current.intervalMs_pos hstart⟩
  | stopped => exact ⟨hs.current, Playback.plays_stopped _ _⟩

/-- What a move keeps. -/
theorem previews_move (hs : s.work.Previews n) (m : Move) :
    (s.move m).work.Previews (if s.startsBy m then 0 else n + s.ticksBy m) := by
  cases m with
  | event now l e => exact (s.reworked_event now l e).previews hs
  | edit now e => exact (s.reworked_edit now e).previews hs
  | tick now => exact ⟨hs.current, hs.plays.advance⟩
  | save result => cases result <;> exact ⟨hs.current, hs.plays⟩
  | exportSketch result => cases result <;> exact hs

/-- What a run keeps. -/
theorem previews_moves (hs : s.work.Previews n) (ms : List Move) :
    (s.moves ms).work.Previews (s.ticksSinceStart n ms) := by
  induction ms generalizing s n with
  | nil => exact hs
  | cons m ms ih => exact ih (previews_move hs m)

/-- After any run, a preview that plays has a plan in which something moves, the interval of that
plan, and one tick for each time that it has advanced since it was started. One that does not
play stands at tick 0: the LCD that is drawn is the layout as edited, with the selected cell. -/
theorem preview_plays_plan (d : Display) (o : Options) (path : String) (config : EditorConfig)
    (ms : List Move) :
    let opened := ofSession (Session.ofDesign d o) path config
    let s := opened.moves ms
    (s.playback.isPlaying = true →
      s.session.plan.isAnimated = true ∧
      s.playback.task.interval? = some (milliseconds s.session.plan.intervalMs.toNat) ∧
      s.playback.tick = opened.ticksSinceStart 0 ms) ∧
    (s.playback.isPlaying = false →
      s.playback.tick = 0 ∧
      (∀ l, s.drawLcd l = LcdView.drawLcd l.lcd (Frame.ofPlan s.session.plan 0)
        s.session.compiled.glyphs (some (s.line.val, s.column.val))) ∧
      ∀ line column, (s.session.compiled.glyphs.show?
        (Grid.get (Frame.ofPlan s.session.plan 0) line column)).getD Bitmap.blank =
          s.session.display.get line column) := by
  intro opened s
  have hopened : opened.work.Previews 0 := ⟨rfl, Playback.plays_stopped _ _⟩
  have hs : s.work.Previews (opened.ticksSinceStart 0 ms) := previews_moves hopened ms
  constructor
  · intro hplaying
    exact ⟨hs.plays.animated hplaying, hs.plays.interval hplaying, hs.plays.tick hplaying⟩
  · intro hstill
    have htick : s.playback.tick = 0 := hs.plays.rest hstill
    refine ⟨htick, ?_, hs.current.show?_frame_zero⟩
    intro l
    rw [drawLcd, htick, if_neg (Bool.eq_false_iff.mp hstill)]
    rfl

/-- A preview is started and advances once, when its task is due. -/
theorem preview_plays_plan_one_tick :
    let opened := ofSession (Session.ofDesign Display.blank { scrolling := true }) "design.json" {}
    let s := opened.moves [.edit 0 .togglePlayback, .tick (milliseconds 299),
      .tick (milliseconds 300)]
    s.playback.isPlaying = true ∧ s.playback.tick = 1 ∧
      s.playback.task.interval? = some (milliseconds s.session.plan.intervalMs.toNat) := by
  intro opened s
  have hplaying : s.playback.isPlaying = true := by decide
  obtain ⟨hplays, -⟩ := preview_plays_plan Display.blank { scrolling := true } "design.json" {}
    [.edit 0 .togglePlayback, .tick (milliseconds 299), .tick (milliseconds 300)]
  obtain ⟨-, hinterval, htick⟩ := hplays hplaying
  exact ⟨hplaying, htick, hinterval⟩

end Editor

end CharLcd
