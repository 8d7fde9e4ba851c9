import CharLcd.Editor.Control

/-!
# What an event does

- `Editor.Handled`: all that an event can do to an editor, and what has to follow; one
  constructor for each way that a key or a report of the mouse can take.
- `Editor.handled_handle`: every event takes one of these ways.
- `Editor.selectCell_eq`, `Editor.arrow_eq`, `Editor.answer_eq`: what selecting and answering leave
  alone.
-/

namespace CharLcd

open LcdView Terminal

namespace Editor

/-- All that an event can do to an editor, and what has to follow. -/
inductive Handled (s : Editor) (now : Time) (l : Layout) : Event → Editor × Action → Prop where
  -- keys while no question is open
  | unbound {k : Key} (hmode : s.mode = .normal)
    (hkey : Request.ofKey? s.config.keys k = none) :
    s.Handled now l (.key k) ({ s with status := none }, .ignore)
  | moved {k : Key} (a : KeyCode) (hmode : s.mode = .normal)
    (hkey : Request.ofKey? s.config.keys k = some (.pixel a)) :
    s.Handled now l (.key k) ({ s with status := none }.arrow a, .redraw)
  | performed {k : Key} (f : KeyFunction) (hmode : s.mode = .normal)
    (hkey : Request.ofKey? s.config.keys k = some (.function f)) :
    s.Handled now l (.key k) ({ s with status := none }.perform now f, .redraw)
  | quitting {k : Key} (hmode : s.mode = .normal)
    (hkey : Request.ofKey? s.config.keys k = some (.function .quit)) (hclean : s.dirty = false) :
    s.Handled now l (.key k) (s, .quit)
  | asked {k : Key} (hmode : s.mode = .normal)
    (hkey : Request.ofKey? s.config.keys k = some (.function .quit)) (hdirty : s.dirty = true) :
    s.Handled now l (.key k) (s.ask .quit, .redraw)
  | saving {k : Key} (hmode : s.mode = .normal)
    (hkey : Request.ofKey? s.config.keys k = some (.function .save)) :
    s.Handled now l (.key k) (s, .save)
  | exporting {k : Key} (hmode : s.mode = .normal)
    (hkey : Request.ofKey? s.config.keys k = some (.function .exportSketch)) :
    s.Handled now l (.key k) (s, .exportSketch)
  -- keys while a question is open
  | marked {k : Key} (q : Question) (yes : Bool) (hmode : s.mode = .asking q yes) :
    s.Handled now l (.key k) ({ s with mode := .asking q !yes }, .redraw)
  | answered {k : Key} (q : Question) (yes said : Bool) (hmode : s.mode = .asking q yes) :
    s.Handled now l (.key k) (s.answer q said)
  | unanswered {k : Key} (q : Question) (yes : Bool) (hmode : s.mode = .asking q yes) :
    s.Handled now l (.key k) (s, .ignore)
  -- the mouse
  | pressed {m : Mouse} (row : Fin glyphRows) (column : Fin glyphColumns)
    (hmode : s.mode = .normal) (hm : m.action = .down .left)
    (hpixel : l.pixelAt? ⟨m.column, m.row⟩ = some (row, column)) :
    s.Handled now l (.mouse m) (s.beginPaint row column, .redraw)
  | selected {m : Mouse} (line : Fin lcdLines) (column : Fin lcdColumns) (hmode : s.mode = .normal)
    (hm : m.action = .down .left) (hpixel : l.pixelAt? ⟨m.column, m.row⟩ = none)
    (hslot : slotAt? l.lcd ⟨m.column, m.row⟩ = some (line, column)) :
    s.Handled now l (.mouse m) (s.selectCell line column, .redraw)
  | dragged {m : Mouse} (row : Fin glyphRows) (column : Fin glyphColumns)
    (hmode : s.mode = .normal) (hm : m.action = .drag .left)
    (hpixel : l.pixelAt? ⟨m.column, m.row⟩ = some (row, column)) (hpaint : s.paint.isSome = true) :
    s.Handled now l (.mouse m)
      ({ s with pixelRow := row, pixelColumn := column }.paintAt row column, .redraw)
  | released {m : Mouse} (hmode : s.mode = .normal) (hm : m.action = .up .left) :
    s.Handled now l (.mouse m) (s.endPaint, .ignore)
  | wheeledDown {m : Mouse} (hmode : s.mode = .normal) (hm : m.action = .scrollDown) :
    s.Handled now l (.mouse m) (s.scrollDown wheelScroll, .redraw)
  | wheeledUp {m : Mouse} (hmode : s.mode = .normal) (hm : m.action = .scrollUp) :
    s.Handled now l (.mouse m) (s.scrollUp wheelScroll, .redraw)
  | missed {m : Mouse} (hmode : s.mode = .normal)
    (hdown : m.action = .down .left → l.pixelAt? ⟨m.column, m.row⟩ = none)
    (hm : m.action ≠ .up .left ∧ m.action ≠ .scrollDown) :
    s.Handled now l (.mouse m) (s, .ignore)
  | unheard {m : Mouse} (hmode : s.mode ≠ .normal) : s.Handled now l (.mouse m) (s, .ignore)
  -- anything else
  | resized : s.Handled now l .resize (s, .redraw)
  | other {e : Event} (hkey : ∀ k, e ≠ .key k) (hmouse : ∀ m, e ≠ .mouse m)
    (hresize : e ≠ .resize) : s.Handled now l e (s, .ignore)

section

variable (s : Editor) (now : Time) (l : Layout)

theorem handled_pressNormal (k : Key) (hmode : s.mode = .normal) :
    s.Handled now l (.key k) (s.pressNormal now k) := by
  unfold pressNormal
  cases hkey : Request.ofKey? s.config.keys k with
  | none => exact .unbound hmode hkey
  | some r =>
    cases r with
    | pixel a => exact .moved a hmode hkey
    | function f =>
      cases f with
      | quit =>
        cases hdirty : s.dirty with
        | true => exact .asked hmode hkey hdirty
        | false => exact .quitting hmode hkey hdirty
      | save => exact .saving hmode hkey
      | exportSketch => exact .exporting hmode hkey
      | _ => exact .performed _ hmode hkey

theorem handled_pressAsking (k : Key) {q : Question} {yes : Bool}
    (hmode : s.mode = .asking q yes) : s.Handled now l (.key k) (s.pressAsking q yes k) := by
  unfold pressAsking
  split
  next => exact .marked q yes hmode
  next => exact .marked q yes hmode
  next => exact .marked q yes hmode
  next => exact .marked q yes hmode
  next => exact .marked q yes hmode
  next => exact .answered q yes true hmode
  next => exact .answered q yes true hmode
  next => exact .answered q yes false hmode
  next => exact .answered q yes false hmode
  next =>
    by_cases hconfirm : s.config.keys.accepts .confirm k = true
    · rw [if_pos hconfirm]
      exact .answered q yes yes hmode
    · rw [if_neg hconfirm]
      by_cases hcancel : s.config.keys.accepts .cancel k = true
      · rw [if_pos hcancel]
        exact .answered q yes false hmode
      · rw [if_neg hcancel]
        exact .unanswered q yes hmode

theorem handled_mouseDown (column row : Nat) (hmode : s.mode = .normal) :
    s.Handled now l (.mouse ⟨.down .left, column, row⟩) (s.mouseDown l ⟨column, row⟩) := by
  unfold mouseDown
  cases hpixel : l.pixelAt? ⟨column, row⟩ with
  | some pixel => exact .pressed pixel.1 pixel.2 hmode rfl hpixel
  | none =>
    cases hslot : slotAt? l.lcd ⟨column, row⟩ with
    | some slot => exact .selected slot.1 slot.2 hmode rfl hpixel hslot
    | none => exact .missed hmode (fun _ => hpixel) ⟨nofun, nofun⟩

theorem handled_mouseDrag (column row : Nat) (hmode : s.mode = .normal) :
    s.Handled now l (.mouse ⟨.drag .left, column, row⟩) (s.mouseDrag l ⟨column, row⟩) := by
  unfold mouseDrag
  cases hpixel : l.pixelAt? ⟨column, row⟩ with
  | none => exact .missed hmode nofun ⟨nofun, nofun⟩
  | some pixel =>
    by_cases hpaint : s.paint.isSome = true
    · simp only [if_pos hpaint]
      exact .dragged pixel.1 pixel.2 hmode rfl hpixel hpaint
    · simp only [if_neg hpaint]
      exact .missed hmode nofun ⟨nofun, nofun⟩

theorem handled_mouseNormal (m : Mouse) (hmode : s.mode = .normal) :
    s.Handled now l (.mouse m) (s.mouseNormal l m) := by
  obtain ⟨action, column, row⟩ := m
  cases action with
  | down b =>
    cases b with
    | left => exact s.handled_mouseDown now l column row hmode
    | _ => exact .missed hmode nofun ⟨nofun, nofun⟩
  | drag b =>
    cases b with
    | left => exact s.handled_mouseDrag now l column row hmode
    | _ => exact .missed hmode nofun ⟨nofun, nofun⟩
  | up b =>
    cases b with
    | left => exact .released hmode rfl
    | _ => exact .missed hmode nofun ⟨nofun, nofun⟩
  | scrollDown => exact .wheeledDown hmode rfl
  | scrollUp => exact .wheeledUp hmode rfl
  | _ => exact .missed hmode nofun ⟨nofun, nofun⟩

/-- What an event does. -/
theorem handled_handle (e : Event) : s.Handled now l e (s.handle now l e) := by
  cases e with
  | key k =>
    show s.Handled now l (.key k) (s.press now k)
    unfold press
    split
    next hmode => exact s.handled_pressNormal now l k hmode
    next q yes hmode => exact s.handled_pressAsking now l k hmode
  | mouse m =>
    show s.Handled now l (.mouse m) (s.mouse l m)
    unfold mouse
    split
    next hmode => exact s.handled_mouseNormal now l m hmode
    next q yes hmode =>
      refine .unheard ?_
      rw [hmode]
      exact nofun
  | resize => exact .resized
  | _ => exact .other (by simp) (by simp) (by simp)

/-! ## What is left alone -/

theorem selectCell_eq (line column : Nat) :
    s.selectCell line column =
      { s with
        line := (s.selectCell line column).line
        column := (s.selectCell line column).column } := by
  unfold selectCell
  split <;> rfl

theorem arrow_eq (a : KeyCode) :
    s.arrow a =
      { s with pixelRow := (s.arrow a).pixelRow, pixelColumn := (s.arrow a).pixelColumn } := by
  cases a <;> rfl

theorem answer_eq (q : Question) (said : Bool) :
    (s.answer q said).1 =
      { s with
        mode := .normal, session := (s.answer q said).1.session
        dirty := (s.answer q said).1.dirty, playback := (s.answer q said).1.playback } := by
  cases q <;> cases said <;> rfl

end

end Editor
end CharLcd
