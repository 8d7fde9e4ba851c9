import CharLcd.Proofs.Editor.Move
import CharLcd.Proofs.Session.Effect
import Mathlib.Order.Fin.Basic

/-!
# A stroke of the mouse

The left button goes down on a pixel of the magnified cell, the mouse is dragged, and the button
goes up. The pixel is flipped, and every pixel that the mouse meets gets the same state, however
often it is met and whatever it was before.

- `Move.press`, `Move.drag`, `Move.release`: what the button does at a position.
- `Move.Strokes`, `Move.met?`: what can happen in a stroke, and the pixel that is met then.
- `Bitmap.painted`: a bitmap with some pixels in one state.
- `Editor.stroked`: an editor in the middle of a stroke; `move_press` says how a stroke begins,
  `move_stroked` how it goes on.
- `Editor.stroke_paints_one_state`: what a whole stroke does.
-/

namespace CharLcd

open LcdView Terminal

/-! ## Moves -/

namespace Move

/-- The left button goes down at a position. -/
def press (now : Time) (l : Layout) (p : Position) : Move :=
  .event now l (.mouse ⟨.down .left, p.column, p.row⟩)

/-- The mouse is dragged to a position with the left button. -/
def drag (now : Time) (l : Layout) (p : Position) : Move :=
  .event now l (.mouse ⟨.drag .left, p.column, p.row⟩)

/-- The left button goes up at a position. -/
def release (now : Time) (l : Layout) (p : Position) : Move :=
  .event now l (.mouse ⟨.up .left, p.column, p.row⟩)

/-- What can happen in a stroke: the mouse is dragged, or time passes. -/
inductive Strokes : Move → Prop where
  | drag (now : Time) (l : Layout) (p : Position) : Strokes (drag now l p)
  | tick (now : Time) : Strokes (.tick now)

/-- The pixel that the mouse is dragged to, if it is dragged to one. -/
def met? : Move → Option (Fin glyphRows × Fin glyphColumns)
  | .event _ l (.mouse ⟨.drag .left, column, row⟩) => l.pixelAt? ⟨column, row⟩
  | _ => none

end Move

/-! ## Painted bitmaps -/

namespace Bitmap

/-- A bitmap with some pixels in one state. -/
def painted (b : Bitmap) (pixels : List (Fin glyphRows × Fin glyphColumns)) (on : Bool) : Bitmap :=
  Grid.ofFn fun row col => if (row, col) ∈ pixels then on else b.get row col

variable (b : Bitmap) (pixels : List (Fin glyphRows × Fin glyphColumns)) (on : Bool)

@[simp] theorem get_painted (row : Fin glyphRows) (col : Fin glyphColumns) :
    (b.painted pixels on).get row col = if (row, col) ∈ pixels then on else b.get row col :=
  Grid.get_ofFn _ _ _

@[simp] theorem painted_nil : b.painted [] on = b := by
  apply Grid.ext_get
  intro row col
  rw [get_painted, if_neg List.not_mem_nil]

/-- One more pixel is painted. -/
theorem set_painted (p : Fin glyphRows × Fin glyphColumns) :
    Grid.set (b.painted pixels on) p.1 p.2 on = b.painted (pixels ++ [p]) on := by
  apply Grid.ext_get
  intro row col
  rw [Grid.get_set, get_painted, get_painted]
  by_cases hp : row = p.1 ∧ col = p.2
  · have hmem : (row, col) ∈ pixels ++ [p] := by
      rw [hp.1, hp.2]
      simp
    rw [if_pos hp, if_pos hmem]
  · have hne : (row, col) ≠ p := fun h => hp (Prod.ext_iff.mp h)
    simp only [if_neg hp, List.mem_append, List.mem_singleton, hne, or_false]

end Bitmap

namespace Editor

/-! ## The middle of a stroke -/

/-- An editor in the middle of a stroke that began at a pixel and has met others since. The preview
may have gone on. -/
def stroked (s : Editor) (playback : Playback) (on : Bool)
    (first : Fin glyphRows × Fin glyphColumns)
    (met : List (Fin glyphRows × Fin glyphColumns)) : Editor :=
  { s with
    session := s.session.setDisplay
      (s.session.display.set s.line s.column (s.currentCell.painted (first :: met) on))
    dirty := true
    paint := some on
    pixelRow := (met.getLastD first).1
    pixelColumn := (met.getLastD first).2
    playback }

section

variable (s : Editor) (now : Time) (l : Layout) (p : Position)

theorem mouse_of_normal (hmode : s.mode = .normal) (m : Mouse) :
    s.mouse l m = s.mouseNormal l m := by
  unfold mouse
  rw [hmode]

/-- The button goes down on a pixel. -/
theorem move_press_of_pixel {pixel : Fin glyphRows × Fin glyphColumns} (hmode : s.mode = .normal)
    (hpixel : l.pixelAt? p = some pixel) :
    s.move (.press now l p) = s.beginPaint pixel.1 pixel.2 := by
  show (s.mouse l ⟨.down .left, p.column, p.row⟩).1 = _
  rw [mouse_of_normal s l hmode]
  show (s.mouseDown l p).1 = _
  rw [mouseDown, hpixel]

/-- A drag beside the pixels has no effect. -/
theorem move_drag_of_none (hpixel : l.pixelAt? p = none) : s.move (.drag now l p) = s := by
  show (s.mouse l ⟨.drag .left, p.column, p.row⟩).1 = s
  unfold mouse
  split
  next =>
    show (s.mouseDrag l p).1 = s
    rw [mouseDrag, hpixel]
  next => rfl

/-- A drag to a pixel paints it. -/
theorem move_drag_of_pixel {pixel : Fin glyphRows × Fin glyphColumns} {on : Bool}
    (hmode : s.mode = .normal) (hpaint : s.paint = some on)
    (hpixel : l.pixelAt? p = some pixel) :
    s.move (.drag now l p) =
      { s with pixelRow := pixel.1, pixelColumn := pixel.2 }.apply
        (s.session.setPixel s.line s.column pixel.1 pixel.2 on) := by
  show (s.mouse l ⟨.drag .left, p.column, p.row⟩).1 = _
  rw [mouse_of_normal s l hmode]
  show (s.mouseDrag l p).1 = _
  rw [mouseDrag, hpixel]
  simp only [hpaint, Option.isSome_some, if_true, paintAt]

theorem move_release (hmode : s.mode = .normal) : s.move (.release now l p) = s.endPaint := by
  show (s.mouse l ⟨.up .left, p.column, p.row⟩).1 = _
  rw [mouse_of_normal s l hmode]
  rfl

/-- A stroke begins with the opposite of the state that the first pixel had. -/
theorem move_press {first : Fin glyphRows × Fin glyphColumns} (hmode : s.mode = .normal)
    (hfirst : l.pixelAt? p = some first) :
    s.move (.press now l p) =
      s.stroked s.playback (!(s.currentCell.get first.1 first.2)) first [] := by
  have hother : s.session.display.pixel s.line s.column first.1 first.2 ≠
      !(s.currentCell.get first.1 first.2) := by simp [Display.pixel, currentCell]
  have hbegin : s.beginPaint first.1 first.2 =
      { s with
        paint := some !(s.currentCell.get first.1 first.2)
        pixelRow := first.1, pixelColumn := first.2 }.apply
        (s.session.setPixel s.line s.column first.1 first.2
          (!(s.currentCell.get first.1 first.2))) :=
    dif_pos ⟨first.1.isLt, first.2.isLt⟩
  rw [s.move_press_of_pixel now l p hmode hfirst, hbegin, Session.setPixel_fin, if_neg hother]
  simp only [apply, stroked, Bool.or_true, List.getLastD_nil]
  rw [← List.nil_append [first], ← Bitmap.set_painted, Bitmap.painted_nil]
  rfl

end

/-! ## Strokes -/

section

variable (s : Editor) (on : Bool) (first : Fin glyphRows × Fin glyphColumns)

/-- A stroke goes on: a pixel that is met is painted, and everything else has no effect but that the
preview may advance. -/
theorem move_stroked (hmode : s.mode = .normal) (playback : Playback)
    (met : List (Fin glyphRows × Fin glyphColumns)) {m : Move} (hm : m.Strokes) :
    ∃ playback', (s.stroked playback on first met).move m =
      s.stroked playback' on first (met ++ m.met?.toList) := by
  cases hm with
  | tick now =>
    refine ⟨(playback.advance now).1, ?_⟩
    show _ = s.stroked _ on first (met ++ [])
    rw [List.append_nil]
    rfl
  | drag now l p =>
    refine ⟨playback, ?_⟩
    show _ = s.stroked playback on first (met ++ (l.pixelAt? p).toList)
    cases hpixel : l.pixelAt? p with
    | none =>
      rw [move_drag_of_none _ now l p hpixel, Option.toList_none, List.append_nil]
    | some pixel =>
      have hmodes : (s.stroked playback on first met).mode = .normal := hmode
      have hsession := s.session.setPixel_setDisplay_fst s.line s.column pixel.1 pixel.2
        (s.session.display.set s.line s.column (s.currentCell.painted (first :: met) on)) on
      rw [Grid.get_set_self, Grid.set_set_self, Bitmap.set_painted, List.cons_append] at hsession
      rw [move_drag_of_pixel _ now l p hmodes rfl hpixel, Option.toList_some]
      simp only [apply, stroked, hsession, Bool.true_or, List.getLastD_concat]

/-- A stroke paints all pixels that it meets. -/
theorem moves_stroked (hmode : s.mode = .normal) {path : List Move}
    (hpath : ∀ m ∈ path, m.Strokes) (playback : Playback)
    (met : List (Fin glyphRows × Fin glyphColumns)) :
    ∃ playback', (s.stroked playback on first met).moves path =
      s.stroked playback' on first (met ++ path.filterMap Move.met?) := by
  induction path generalizing playback met with
  | nil => exact ⟨playback, by simp⟩
  | cons m path ih =>
    obtain ⟨hm, hpath⟩ := List.forall_mem_cons.mp hpath
    obtain ⟨between, hstep⟩ := s.move_stroked on first hmode playback met hm
    obtain ⟨after, hrest⟩ := ih hpath between (met ++ m.met?.toList)
    refine ⟨after, ?_⟩
    rw [moves_cons, hstep, hrest, List.append_assoc]
    congr 2
    cases hmet : m.met? <;> simp [hmet]

/-- After a whole stroke nothing is painted any more. -/
theorem moves_stroke (now now' : Time) {l : Layout} (l' : Layout) {p : Position} (p' : Position)
    (hmode : s.mode = .normal) (hfirst : l.pixelAt? p = some first) {path : List Move}
    (hpath : ∀ m ∈ path, m.Strokes) :
    ∃ playback, s.moves (.press now l p :: path ++ [.release now' l' p']) =
      (s.stroked playback (!(s.currentCell.get first.1 first.2)) first
        (path.filterMap Move.met?)).endPaint := by
  obtain ⟨playback, hmoves⟩ :=
    s.moves_stroked (!(s.currentCell.get first.1 first.2)) first hmode hpath s.playback []
  refine ⟨playback, ?_⟩
  calc s.moves (.press now l p :: path ++ [.release now' l' p'])
      = ((s.move (.press now l p)).moves path).move (.release now' l' p') := by
        rw [moves_append, moves_cons, moves_cons, moves_nil]
    _ = (s.stroked playback _ first ([] ++ path.filterMap Move.met?)).move
          (.release now' l' p') := by
        rw [s.move_press now l p hmode hfirst, hmoves]
    _ = (s.stroked playback _ first (path.filterMap Move.met?)).endPaint := by
        rw [List.nil_append]
        exact move_release _ now' l' p' hmode

end

/-- While no question is open, the left button goes down on a pixel of the selected cell, the mouse
is dragged with it to any positions, and the button goes up; nothing else happens meanwhile but that
time passes. Then that pixel and all pixels to which the mouse was dragged have the opposite of the
state that the first one had, and the others are as they were. The cursor is on the pixel that was
met last, nothing is painted any more, there are unsaved changes, and no other cell and no option
has changed. A drag to a position beside the pixels has no effect. -/
theorem stroke_paints_one_state (s : Editor) (now now' : Time) {l : Layout} (l' : Layout)
    {p : Position} (p' : Position) {first : Fin glyphRows × Fin glyphColumns} {path : List Move}
    (hmode : s.mode = .normal) (hfirst : l.pixelAt? p = some first)
    (hpath : ∀ m ∈ path, m.Strokes) :
    let on := !(s.currentCell.get first.1 first.2)
    let met := path.filterMap Move.met?
    let t := s.moves (.press now l p :: path ++ [.release now' l' p'])
    (∀ row col, t.currentCell.get row col =
      if (row, col) = first ∨ (row, col) ∈ met then on else s.currentCell.get row col) ∧
    (t.pixelRow, t.pixelColumn) = met.getLastD first ∧
    t.paint = none ∧ t.dirty = true ∧
    t.line = s.line ∧ t.column = s.column ∧
    (∀ line column, ¬ (line = s.line ∧ column = s.column) →
      t.session.display.get line column = s.session.display.get line column) ∧
    t.session.options = s.session.options ∧ t.session.clipboard = s.session.clipboard ∧
    (∀ (u : Editor) (now : Time) (l : Layout) (p : Position), l.pixelAt? p = none →
      u.move (.drag now l p) = u) := by
  intro on met t
  obtain ⟨playback, ht⟩ :
      ∃ playback, t = (s.stroked playback on first met).endPaint :=
    s.moves_stroke first now now' l' p' hmode hfirst hpath
  rw [ht]
  refine ⟨?_, rfl, rfl, rfl, rfl, rfl, ?_, rfl, rfl, ?_⟩
  · intro row col
    show Grid.get (Grid.get (s.session.display.set s.line s.column
      (s.currentCell.painted (first :: met) on)) s.line s.column) row col = _
    simp only [Grid.get_set_self, Bitmap.get_painted, List.mem_cons]
  · intro line column hother
    show Grid.get (s.session.display.set s.line s.column _) line column = _
    rw [Grid.get_set, if_neg hother]
  · intro u now l p hpixel
    exact u.move_drag_of_none now l p hpixel

/-- In the second cell, whose pixels are dark but one, the mouse goes from a dark pixel over the lit
one and back, leaves the cell while the time passes, and ends on a third pixel. All three are then
lit. -/
theorem stroke_paints_one_state_there_and_back :
    let l := Layout.ofSize ⟨160, 50⟩
    let s := ((ofSession (Session.ofDesign Display.blank {}) "design.json" {}).stepCell 1).movePixel
      0 1 |>.togglePixel
    let path := [Move.drag 0 l ⟨4, 15⟩, .drag 0 l ⟨2, 15⟩, .drag 0 l ⟨90, 40⟩, .tick 5,
      .drag 0 l ⟨7, 17⟩]
    let t := s.moves (.press 0 l ⟨3, 15⟩ :: path ++ [.release 0 l ⟨90, 40⟩])
    s.currentCell.activeCount = 1 ∧
      (∀ row col, t.currentCell.get row col =
        if (row, col) = (0, 0) ∨ (row, col) ∈ [(0, 1), (0, 0), (2, 2)] then true
        else s.currentCell.get row col) ∧
      (t.pixelRow, t.pixelColumn) = (2, 2) ∧ t.paint = none ∧ t.dirty = true := by
  intro l s path t
  have hfirst : l.pixelAt? ⟨3, 15⟩ = some (0, 0) := by decide
  have hpath : ∀ m ∈ path, m.Strokes := by
    intro m hm
    simp only [path, List.mem_cons, List.not_mem_nil, or_false] at hm
    rcases hm with rfl | rfl | rfl | rfl | rfl
    · exact .drag ..
    · exact .drag ..
    · exact .drag ..
    · exact .tick ..
    · exact .drag ..
  obtain ⟨hcell, hcursor, hpaint, hdirty, -⟩ :=
    stroke_paints_one_state s 0 0 l ⟨90, 40⟩ rfl hfirst hpath
  have hmet : path.filterMap Move.met? = [(0, 1), (0, 0), (2, 2)] := by decide
  rw [hmet] at hcell hcursor
  exact ⟨by decide +kernel, hcell, hcursor, hpaint, hdirty⟩

end Editor
end CharLcd
