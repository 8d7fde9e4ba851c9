import CharLcd.Editor.Loop
import CharLcd.Proofs.Editor.Panels
import CharLcd.Proofs.Playback

/-!
# Ticks of the preview on the screen

A tick draws two panels again, the LCD and the options, on what stands on the screen. Nothing else
shows the tick, each of the two covers all that it drew before, and no panel that is drawn after
them stands on them. So the screen is the one that drawing everything on a cleared screen leaves.

- `Editor.passes`: instants that pass without an event.
- `Editor.UpToDate`: the screen shows what drawing everything anew would.
- `Editor.UpToDate.tick`, `UpToDate.pass`, `UpToDate.passes`: a tick, an instant and any number of
  instants keep it so.
- `Editor.ticks_eq_redraw`: the screen after any number of ticks.
-/

namespace CharLcd

open LcdView Terminal

attribute [local instance] Clock.nanoseconds

namespace Editor

/-- Instants that pass without an event, and all that is drawn meanwhile. -/
def passes (size : Size) (s : Editor) : List Time → Editor × List Command
  | [] => (s, [])
  | now :: times =>
    let (s, ticked) := s.pass now size
    let (s, drawn) := passes size s times
    (s, ticked ++ drawn)

/-- The screen shows what drawing everything on a cleared screen leaves. -/
structure UpToDate (size : Size) (s : Editor) (screen : Screen) : Prop where
  size_eq : screen.size = size
  look_eq : screen.look = {}
  cell_eq : ∀ p, screen.cell p = ((Screen.blank size).run (s.drawScreen size)).cell p

section

variable {size : Size} {s : Editor} {screen : Screen} {p : Position}

/-! ## Panels -/

theorem drawing_drawTick (s : Editor) (size : Size) : Screen.Drawing (s.drawTick size) :=
  (s.drawsIn_lcdArea _).toDrawing.append (s.drawsIn_drawOptions _).toDrawing

/-- Where the LCD and the options stand nothing is drawn over them. -/
theorem cell_run_over (hheight : 26 ≤ size.height)
    (hp : (area (Layout.ofSize size).lcd).Contains p ∨ (Layout.ofSize size).optionsArea.Contains p)
    (t : Screen) :
    (t.run (s.drawSketch (Layout.ofSize size) ++ s.drawStatus (Layout.ofSize size))).cell p =
      t.cell p := by
  have hrow : p.row < 23 := by
    refine hp.elim (fun h => ?_) fun h => (Layout.contains_optionsArea h).1.2
    exact Nat.lt_trans (Layout.contains_lcdArea h).1.2 (by decide)
  have hstatus : p.row ≠ (Layout.ofSize size).statusRow := by
    show p.row ≠ size.height - 1
    omega
  obtain ⟨_, hsketch⟩ := s.exists_drawsIn_drawSketch (Layout.ofSize size)
  rw [Screen.run_append, s.cell_run_drawStatus _ hstatus]
  exact hsketch.cell_run_of_not_contains (Layout.not_contains_sketch hp)

/-! ## A tick -/

/-- On a screen that shows an editor it is enough to draw the LCD and the options of another one, if
all other panels are the same and the options cover what they printed before. -/
theorem cell_run_drawTick {t : Editor} {l : Layout} (hl : l = Layout.ofSize size)
    (hheight : 26 ≤ size.height) (hmenu : t.drawMenu l = s.drawMenu l)
    (hpixels : t.drawPixels l = s.drawPixels l) (hsketch : t.drawSketch l = s.drawSketch l)
    (hstatus : t.drawStatus l = s.drawStatus l)
    (hcovers : p ∈ Screen.printed ⟨0, 0⟩ (s.drawOptions l) →
      p ∈ Screen.printed ⟨0, 0⟩ (t.drawOptions l)) :
    (((Screen.blank size).run (s.drawScreen size)).run (t.drawTick size)).cell p =
      ((Screen.blank size).run (t.drawScreen size)).cell p := by
  have htwo : t.drawTick size = t.drawLcd l ++ t.drawOptions l := by
    rw [hl]
    rfl
  have hplain := s.stayPlain_clearScreen_drawMenu l (Screen.blank size) rfl
  have hpixelArea := s.drawsIn_drawPixels l (by rw [hl]; exact Nat.succ_pos _)
  have hlcd (t : Editor) : Screen.DrawsIn (area l.lcd) (t.drawLcd l) := t.drawsIn_lcdArea l
  have hoptions (t : Editor) : Screen.DrawsIn l.optionsArea (t.drawOptions l) :=
    t.drawsIn_drawOptions l
  have hover := s.drawing_drawSketch l
  have hfree (u : Screen) (hp : (area l.lcd).Contains p ∨ l.optionsArea.Contains p) :
      (u.run (s.drawSketch l ++ s.drawStatus l)).cell p = u.cell p := by
    rw [hl] at hp ⊢
    exact cell_run_over hheight hp u
  have hapart (hp : (area l.lcd).Contains p) (hp' : l.pixelArea.Contains p) : False := by
    rw [hl] at hp hp'
    have hrow := (Layout.contains_lcdArea hp).1.2
    have hrow' := (Layout.contains_pixelArea hp').1.1
    omega
  rw [htwo, drawScreen_eq, drawScreen_eq, ← hl, hmenu, hpixels, hsketch, hstatus]
  rw [Screen.run_append _ (.clearScreen :: s.drawMenu l),
    Screen.run_append _ (.clearScreen :: s.drawMenu l)]
  generalize (Screen.blank size).run (.clearScreen :: s.drawMenu l) = base at hplain ⊢
  rw [← Screen.run_append]
  refine Screen.cell_run_redrawn (hlcd s).toDrawing (hlcd t).toDrawing
    hpixelArea.toDrawing (hoptions s).toDrawing (hoptions t).toDrawing
    (hover.movesFirst.append (s.movesFirst_drawStatus l))
    (hover.stayPlain.append (s.stayPlain_drawStatus l)) rfl hplain hplain rfl ?_ hcovers ?_ ?_
  · intro hp
    exact (mem_printed_drawLcd _ _ _).mpr ((mem_printed_drawLcd _ _ _).mp hp)
  · exact fun hp hp' => hapart ((hlcd t).contains _ _ hp) (hpixelArea.contains _ _ hp')
  · exact fun hp u => hfree u (hp.imp ((hlcd t).contains _ _) ((hoptions t).contains _ _))

/-- Besides the LCD and the options, all panels show of the preview only whether it plays. -/
theorem draw_congr {playback : Playback} (hplaying : playback.isPlaying = s.playback.isPlaying)
    (l : Layout) :
    { s with playback }.drawMenu l = s.drawMenu l ∧
      { s with playback }.drawPixels l = s.drawPixels l ∧
      { s with playback }.drawSketch l = s.drawSketch l ∧
      { s with playback }.drawStatus l = s.drawStatus l := by
  refine ⟨?_, rfl, rfl, ?_⟩
  · simp only [drawMenu, menuItems, hplaying]
  · simp only [drawStatus, modeName, hplaying]
    rfl

/-- Drawing everything shows the editor, whatever stood on the screen. -/
theorem upToDate_run_drawScreen (s : Editor) (hsize : screen.size = size)
    (hlook : screen.look = {}) : UpToDate size s (screen.run (s.drawScreen size)) where
  size_eq := (Screen.size_run _ _).trans hsize
  look_eq := s.stayPlain_drawScreen size screen hlook
  cell_eq p := by
    rw [drawScreen_eq, List.cons_append, Screen.run_cons, Screen.run_cons]
    refine Screen.MovesFirst.cell_run_congr ?_ hsize hlook rfl
    rw [drawMenu_eq s _ Nat.one_ne_zero, List.cons_append]
    exact Screen.movesFirst_moveTo _ _ _

namespace UpToDate

/-- After a later tick it is enough to draw the LCD and the options. -/
theorem tick (h : UpToDate size s screen) (hheight : 26 ≤ size.height) {playback : Playback}
    (hplaying : playback.isPlaying = s.playback.isPlaying)
    (htick : s.playback.tick ≤ playback.tick) :
    UpToDate size { s with playback } (screen.run ({ s with playback }.drawTick size)) := by
  obtain ⟨hmenu, hpixels, hsketch, hstatus⟩ := draw_congr hplaying (Layout.ofSize size)
  have hdrawing := { s with playback }.drawing_drawTick size
  refine ⟨(Screen.size_run _ _).trans h.size_eq, hdrawing.stayPlain _ h.look_eq, fun p => ?_⟩
  have hshown : screen.size = ((Screen.blank size).run (s.drawScreen size)).size := by
    rw [Screen.size_run, h.size_eq]
    rfl
  have hplain : screen.look = ((Screen.blank size).run (s.drawScreen size)).look :=
    h.look_eq.trans (s.stayPlain_drawScreen size _ rfl).symm
  rw [hdrawing.movesFirst.cell_run_congr hshown hplain (h.cell_eq p)]
  exact cell_run_drawTick rfl hheight hmenu hpixels hsketch hstatus
    (s.mem_printed_drawOptions _ hplaying htick)

/-- So it is after an instant that passes. -/
theorem pass (h : UpToDate size s screen) (hheight : 26 ≤ size.height) (now : Time) :
    UpToDate size (s.pass now size).1 (screen.run (s.pass now size).2) := by
  have hplaying := s.playback.isPlaying_advance now
  have htick : s.playback.tick ≤ (s.playback.advance now).1.tick := by
    rw [Playback.tick_advance]
    exact Nat.le_add_right _ _
  have hpass : s.pass now size =
      (⟨{ s with playback := (s.playback.advance now).1 },
        if (s.playback.advance now).2 then
          { s with playback := (s.playback.advance now).1 }.drawTick size else []⟩) := rfl
  rw [hpass]
  dsimp only
  split
  next => exact h.tick hheight hplaying htick
  next hdue =>
    rw [Playback.advance_of_snd_eq_false (Bool.eq_false_iff.mpr hdue)]
    exact h

/-- So it is after any number of instants. -/
theorem passes (h : UpToDate size s screen) (hheight : 26 ≤ size.height) (times : List Time) :
    UpToDate size (s.passes size times).1 (screen.run (s.passes size times).2) := by
  induction times generalizing s screen with
  | nil => exact h
  | cons now times ih =>
    have hrest := ih (h.pass hheight now)
    rw [← Screen.run_append] at hrest
    exact hrest

end UpToDate

end

/-- When the preview advances, drawing its tick on a screen that shows the editor leaves what
drawing everything anew on a cleared screen would. So it is after any number of instants. -/
theorem ticks_eq_redraw (s : Editor) (size : Size) (before : Screen) (hheight : 26 ≤ size.height)
    (hsize : before.size = size) (hlook : before.look = {}) :
    let shown := before.run (s.drawScreen size)
    (∀ now, (s.advance now).2 = true →
      let t := (s.advance now).1
      ∀ p, (shown.run (t.drawTick size)).cell p =
        ((Screen.blank size).run (t.drawScreen size)).cell p) ∧
    ∀ times,
      let r := s.passes size times
      ∀ p, (shown.run r.2).cell p = ((Screen.blank size).run (r.1.drawScreen size)).cell p := by
  intro shown
  have hshown : UpToDate size s shown := s.upToDate_run_drawScreen hsize hlook
  refine ⟨fun now hdue => ?_, fun times => (hshown.passes hheight times).cell_eq⟩
  have hpassed := (hshown.pass hheight now).cell_eq
  have hdrawn : (s.pass now size).2 = (s.advance now).1.drawTick size := if_pos hdue
  rw [hdrawn] at hpassed
  exact hpassed

/-- A character goes on by two columns on the smallest terminal, while the editor asks whether to
quit. -/
theorem ticks_eq_redraw_twice :
    let display := Display.blank.set ⟨0, by decide⟩ ⟨1, by decide⟩ (Grid.replicate true)
    let session := Session.ofDesign display { scrolling := true }
    let s : Editor := { (ofSession session "a.json" {}).togglePlayback 0 with
      mode := .asking .quit true }
    let size : Size := ⟨97, 26⟩
    let shown := (Screen.blank size).run (s.drawScreen size)
    let times := [milliseconds 400, milliseconds 800]
    let r := s.passes size times
    26 ≤ size.height ∧ r.1.playback.tick = 2 ∧
      ∀ p, (shown.run r.2).cell p = ((Screen.blank size).run (r.1.drawScreen size)).cell p := by
  intro display session s size shown times r
  have hheight : 26 ≤ size.height := by decide
  have htick : r.1.playback.tick = 2 := by decide +kernel
  clear_value s size times
  exact ⟨hheight, htick, (ticks_eq_redraw s size (Screen.blank size) hheight rfl rfl).2 times⟩

end Editor

end CharLcd
