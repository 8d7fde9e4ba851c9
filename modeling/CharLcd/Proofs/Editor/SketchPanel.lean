import CharLcd.Editor.View
import CharLcd.Proofs.Editor.Handling
import CharLcd.Proofs.Editor.Move

/-!
# The lines in the sketch panel

Scrolling down stops at the last line of the sketch. An edit can make the sketch shorter, and
nothing is scrolled back then: the panel may be empty until it is scrolled again.

- `Editor.sketchLines_pos`: a sketch has lines.
- `Editor.scrollsDown`: the moves that scroll down; `Editor.sketchScroll_move_le` and
  `Editor.sketchScroll_lt_of_scrollsDown` say how far all moves scroll.
- `Editor.linesAtScroll`: how long the sketch was when it was scrolled down last.
- `Editor.exists_drawSketch_eq`: the panel begins with the line that is scrolled to.
- `Editor.sketch_stays_in_panel`: what a run says of the panel.
-/

namespace CharLcd

open LcdView Terminal

namespace Sketch

/-- Every sketch begins with the lines that name its libraries. -/
theorem Program.lines_build_ne_nil (t : GlyphTable) (plan : Plan) (o : Options) :
    (Program.build t plan o).lines ≠ [] := by
  unfold Program.build Program.lines
  cases o.transmission <;> exact List.cons_ne_nil _ _

end Sketch

namespace Editor

/-- Whether a move scrolls towards the end of the sketch. -/
def scrollsDown (s : Editor) : Move → Bool
  | .event _ _ (.key k) =>
    s.mode = .normal && Request.ofKey? s.config.keys k = some (.function .codeDown)
  | .event _ _ (.mouse m) => s.mode = .normal && m.action = .scrollDown
  | _ => false

/-- The number of lines that the sketch had when it was scrolled down last in a run, or `lines` if
it was not. -/
def linesAtScroll (s : Editor) (lines : Nat) : List Move → Nat
  | [] => lines
  | m :: ms => (s.move m).linesAtScroll (if s.scrollsDown m then s.sketchLines else lines) ms

/-- A current sketch has lines. -/
theorem sketchLines_pos {s : Editor} (h : s.session.Current) : 0 < s.sketchLines := by
  rw [sketchLines, h, List.length_pos_iff, Compiled.codeLines]
  intro hnil
  exact Sketch.Program.lines_build_ne_nil _ _ _ (List.map_eq_nil_iff.mp hnil)

section

variable (s : Editor) (now : Time)

/-! ## Scrolling -/

theorem sketchScroll_selectCell (line column : Nat) :
    (s.selectCell line column).sketchScroll = s.sketchScroll := by
  rw [selectCell_eq]

theorem sketchScroll_arrow (a : KeyCode) : (s.arrow a).sketchScroll = s.sketchScroll := by
  rw [arrow_eq]

theorem sketchScroll_answer (q : Question) (said : Bool) :
    (s.answer q said).1.sketchScroll = s.sketchScroll := by
  rw [answer_eq]

/-- Of all key functions only one scrolls down. -/
theorem sketchScroll_perform_le {f : KeyFunction} (hf : f ≠ .codeDown) :
    (s.perform now f).sketchScroll ≤ s.sketchScroll := by
  cases f with
  | codeDown => exact absurd rfl hf
  | codeUp => exact Nat.sub_le _ _
  | nextCell | prevCell => exact Nat.le_of_eq (s.sketchScroll_selectCell _ _)
  | pasteCell => exact Nat.le_of_eq (s.sketchScroll_edit now .pasteCell)
  | play => exact Nat.le_of_eq (s.sketchScroll_edit now .togglePlayback)
  | transmission | numberFormat | scrolling | buffered | direction | slower | faster =>
    exact Nat.le_of_eq (s.sketchScroll_edit now (.updateOptions _))
  | _ => exact Nat.le_refl _

/-- An event that does not scroll down does not go further down. -/
theorem sketchScroll_handle_le {l : Layout} {e : Event}
    (hdown : s.scrollsDown (.event now l e) = false) :
    (s.handle now l e).1.sketchScroll ≤ s.sketchScroll := by
  have h := s.handled_handle now l e
  generalize s.handle now l e = r at h ⊢
  cases h with
  | moved a => exact Nat.le_of_eq (sketchScroll_arrow _ a)
  | performed f hmode hkey =>
    refine sketchScroll_perform_le _ now ?_
    rintro rfl
    simp [scrollsDown, hmode, hkey] at hdown
  | answered q yes said => exact Nat.le_of_eq (s.sketchScroll_answer q said)
  | pressed row column => exact Nat.le_of_eq (s.sketchScroll_edit now (.beginPaint row column))
  | selected line column => exact Nat.le_of_eq (s.sketchScroll_selectCell line column)
  | dragged row column => exact Nat.le_of_eq (sketchScroll_edit _ now (.paintAt row column))
  | wheeledDown hmode hm => simp [scrollsDown, hmode, hm] at hdown
  | wheeledUp => exact Nat.sub_le _ _
  | _ => exact Nat.le_refl _

/-- A move that does not scroll down does not go further down. -/
theorem sketchScroll_move_le {m : Move} (hdown : s.scrollsDown m = false) :
    (s.move m).sketchScroll ≤ s.sketchScroll := by
  cases m with
  | event now l e => exact s.sketchScroll_handle_le now hdown
  | edit now e => exact Nat.le_of_eq (s.sketchScroll_edit now e)
  | tick now => exact Nat.le_refl _
  | save result => cases result <;> exact Nat.le_refl _
  | exportSketch result => cases result <;> exact Nat.le_refl _

/-- A move that scrolls down changes nothing else but the message. -/
theorem exists_move_eq_scrollDown {m : Move} (hdown : s.scrollsDown m = true) :
    ∃ status lines, s.move m = { s with status }.scrollDown lines := by
  unfold scrollsDown at hdown
  split at hdown
  next now l k =>
    rw [Bool.and_eq_true, decide_eq_true_eq, decide_eq_true_eq] at hdown
    obtain ⟨hmode, hkey⟩ := hdown
    refine ⟨none, keyScroll, ?_⟩
    show (s.press now k).1 = _
    unfold press
    split
    next =>
      unfold pressNormal
      rw [hkey]
      rfl
    next q yes hasking =>
      rw [hmode] at hasking
      cases hasking
  next now l m =>
    rw [Bool.and_eq_true, decide_eq_true_eq, decide_eq_true_eq] at hdown
    obtain ⟨hmode, haction⟩ := hdown
    refine ⟨s.status, wheelScroll, ?_⟩
    show (s.mouse l m).1 = _
    unfold mouse
    split
    next =>
      unfold mouseNormal
      rw [haction]
    next q yes hasking =>
      rw [hmode] at hasking
      cases hasking
  next => cases hdown

/-- Scrolling down keeps the last line in the panel. -/
theorem sketchScroll_lt_of_scrollsDown (hs : s.session.Current) {m : Move}
    (hdown : s.scrollsDown m = true) :
    (s.move m).sketchScroll < s.sketchLines ∧ (s.move m).sketchLines = s.sketchLines := by
  obtain ⟨status, lines, hmove⟩ := s.exists_move_eq_scrollDown hdown
  rw [hmove]
  refine ⟨?_, rfl⟩
  have hpos : 0 < s.sketchLines := sketchLines_pos hs
  show min (s.sketchScroll + lines) (s.sketchLines - 1) < s.sketchLines
  omega

/-- A run scrolls less far than the sketch was long when it was scrolled down last. -/
theorem sketchScroll_moves_lt {s : Editor} {lines : Nat} (hs : s.session.Current)
    (hscroll : s.sketchScroll < lines) (ms : List Move) :
    (s.moves ms).sketchScroll < s.linesAtScroll lines ms := by
  induction ms generalizing s lines with
  | nil => exact hscroll
  | cons m ms ih =>
    refine ih ((s.step_move m).current hs) ?_
    cases hdown : s.scrollsDown m with
    | true => exact (s.sketchScroll_lt_of_scrollsDown hs hdown).1
    | false => exact Nat.lt_of_le_of_lt (s.sketchScroll_move_le hdown) hscroll

/-! ## The panel -/

/-- A panel with room for a line begins with the line that is scrolled to, if the sketch has it. -/
theorem exists_drawSketch_eq {l : Layout} (hwidth : 4 ≤ l.sketchWidth)
    (hheight : 3 ≤ l.sketchHeight) (hscroll : s.sketchScroll < s.sketchLines) :
    ∃ line before after, s.session.compiled.codeLines[s.sketchScroll]? = some line ∧
      s.drawSketch l = before ++
        [.moveTo (l.sketch.column + 2) (l.sketch.row + 2),
          .print (clip (l.sketchWidth - 2) line)] ++ after := by
  have hroom : ¬ (l.sketchWidth < 4 ∨ l.sketchHeight < 3) := by omega
  obtain ⟨rows, hrows⟩ : ∃ rows, l.sketchHeight - 2 = rows + 1 :=
    ⟨l.sketchHeight - 3, by omega⟩
  have hlt : s.sketchScroll < s.session.compiled.codeLines.length := hscroll
  rw [drawSketch, if_neg hroom]
  dsimp only
  rw [List.drop_eq_getElem_cons hlt, hrows, List.take_succ_cons, List.zipIdx_cons,
    List.flatMap_cons, ← List.append_assoc]
  exact ⟨_, _, _, List.getElem?_eq_getElem hlt, rfl⟩

end

/-- In any run from an opened design, the sketch is scrolled less far than it was long when it was
scrolled down last. As long as it has not become shorter than that, a line of it is left in the
panel, which begins with that line. Scrolling down brings a line back whatever has been edited. -/
theorem sketch_stays_in_panel (d : Display) (o : Options) (path : String)
    (config : EditorConfig) (ms : List Move) :
    let opened := ofSession (Session.ofDesign d o) path config
    let s := opened.moves ms
    s.sketchScroll < opened.linesAtScroll opened.sketchLines ms ∧
    (opened.linesAtScroll opened.sketchLines ms ≤ s.sketchLines →
      s.sketchScroll < s.sketchLines ∧
      ∀ l : Layout, 4 ≤ l.sketchWidth → 3 ≤ l.sketchHeight →
        ∃ line before after, s.session.compiled.codeLines[s.sketchScroll]? = some line ∧
          s.drawSketch l = before ++
            [.moveTo (l.sketch.column + 2) (l.sketch.row + 2),
              .print (clip (l.sketchWidth - 2) line)] ++ after) ∧
    (∀ m, s.scrollsDown m = true → (s.move m).sketchScroll < (s.move m).sketchLines) := by
  intro opened s
  have hopened : opened.session.Current := Session.current_ofDesign d o
  have hs : s.session.Current := moves_of_step (fun _ _ => Session.Step.current) hopened ms
  have hscroll : s.sketchScroll < opened.linesAtScroll opened.sketchLines ms :=
    sketchScroll_moves_lt hopened (sketchLines_pos hopened) ms
  refine ⟨hscroll, ?_, ?_⟩
  · intro hlines
    have hlt : s.sketchScroll < s.sketchLines := Nat.lt_of_lt_of_le hscroll hlines
    exact ⟨hlt, fun l hwidth hheight => s.exists_drawSketch_eq hwidth hheight hlt⟩
  · intro m hdown
    obtain ⟨hlt, hsame⟩ := s.sketchScroll_lt_of_scrollsDown hs hdown
    rw [hsame]
    exact hlt

/-- A pixel makes the sketch longer, and the sketch is scrolled to its line 15. When the pixel is
taken away the panel is empty, until the wheel scrolls it. -/
theorem sketch_stays_in_panel_long_sketch :
    let l := Layout.ofSize ⟨160, 50⟩
    let opened := ofSession (Session.ofDesign Display.blank {}) "design.json" {}
    let press := Move.event 0 l (.mouse ⟨.down .left, 2, 15⟩)
    let release := Move.event 0 l (.mouse ⟨.up .left, 2, 15⟩)
    let wheel := Move.event 0 l (.mouse ⟨.scrollDown, 0, 0⟩)
    let ms := press :: release :: List.replicate 5 wheel
    let s := opened.moves ms
    let cleared := opened.moves (ms ++ [press])
    opened.linesAtScroll opened.sketchLines ms ≤ s.sketchLines ∧
      4 ≤ l.sketchWidth ∧ 3 ≤ l.sketchHeight ∧ s.sketchScroll = 15 ∧
      (∃ line before after, s.session.compiled.codeLines[s.sketchScroll]? = some line ∧
        s.drawSketch l = before ++
          [.moveTo (l.sketch.column + 2) (l.sketch.row + 2),
            .print (clip (l.sketchWidth - 2) line)] ++ after) ∧
      cleared.scrollsDown wheel = true ∧
      (cleared.move wheel).sketchScroll < (cleared.move wheel).sketchLines := by
  intro l opened press release wheel ms s cleared
  have hlines : opened.linesAtScroll opened.sketchLines ms ≤ s.sketchLines ∧
      s.sketchScroll = 15 := by decide +kernel
  have hwidth : 4 ≤ l.sketchWidth := by decide
  have hheight : 3 ≤ l.sketchHeight := by decide
  have hdown : cleared.scrollsDown wheel = true := by decide +kernel
  obtain ⟨-, hpanel, -⟩ := sketch_stays_in_panel Display.blank {} "design.json" {} ms
  obtain ⟨-, -, hwheel⟩ := sketch_stays_in_panel Display.blank {} "design.json" {} (ms ++ [press])
  exact ⟨hlines.1, hwidth, hheight, hlines.2, (hpanel hlines.1).2 l hwidth hheight, hdown,
    hwheel wheel hdown⟩

/-- The sketch with one pixel is scrolled to its line 15, and then the pixel is taken away: the
sketch ends before the line that is scrolled to. -/
theorem sketch_ends_above_panel :
    let l := Layout.ofSize ⟨160, 50⟩
    let opened := ofSession (Session.ofDesign Display.blank {}) "design.json" {}
    let press := Move.event 0 l (.mouse ⟨.down .left, 2, 15⟩)
    let release := Move.event 0 l (.mouse ⟨.up .left, 2, 15⟩)
    let wheel := Move.event 0 l (.mouse ⟨.scrollDown, 0, 0⟩)
    let s := opened.moves (press :: release :: List.replicate 5 wheel ++ [press])
    s.sketchScroll = 15 ∧ s.sketchLines = 15 ∧ ¬ s.sketchScroll < s.sketchLines := by
  decide +kernel

end Editor

end CharLcd
