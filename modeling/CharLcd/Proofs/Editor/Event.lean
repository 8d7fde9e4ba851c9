import CharLcd.Editor.Control
import CharLcd.Proofs.Editor.Edit

/-!
# The edits behind events

Keys and the mouse reach the work of an editor through edits only. Whatever else an
event does concerns what is selected, asked and shown.

- `Editor.editOf?`: the edit that an event makes; `work_handle` says that the work
  after an event is that after its edit.
- `SaysYes`: the keys that answer a question with yes.
- `handle_eq_quit_iff`: the events that quit.
-/

namespace CharLcd

open LcdView Terminal

/-- The edit that a key makes in an editor whose interval keys go as far as `step`. -/
def KeyFunction.edit? (step : UInt32) : KeyFunction → Option Edit
  | .togglePixel => some .togglePixel
  | .clearCell => some .clearCell
  | .copyCell => some .copyCell
  | .pasteCell => some .pasteCell
  | .transmission => some (.updateOptions fun o => { o with transmission := o.transmission.toggle })
  | .numberFormat => some (.updateOptions fun o => { o with numberFormat := o.numberFormat.toggle })
  | .scrolling => some (.updateOptions fun o => { o with scrolling := !o.scrolling })
  | .buffered => some (.updateOptions fun o => { o with buffered := !o.buffered })
  | .direction => some (.updateOptions fun o => { o with direction := o.direction.toggle })
  | .slower => some (.updateOptions (Options.slower step))
  | .faster => some (.updateOptions (Options.faster step))
  | .play => some .togglePlayback
  | _ => none

/-- A key answers a question with yes: `y`, or the key that confirms while yes is marked. The
keys that move the mark, and `n`, never do. -/
def SaysYes (keys : KeyBindings) (yes : Bool) (k : Key) : Prop :=
  k.code = .char 'y' ∨ k.code = .char 'Y' ∨
    (yes = true ∧ keys.accepts .confirm k = true ∧
      k.code ∉ [.up, .down, .left, .right, .tab, .char 'n', .char 'N'])

instance (keys : KeyBindings) (yes : Bool) (k : Key) : Decidable (SaysYes keys yes k) :=
  inferInstanceAs (Decidable (_ ∨ _ ∨ _))

namespace Editor

variable (s : Editor) (now : Time)

theorem work_selectCell (line column : Nat) : (s.selectCell line column).work = s.work := by
  unfold selectCell
  split <;> rfl

/-! ## Keys -/

theorem work_perform (f : KeyFunction) :
    (s.perform now f).work = ((f.edit? s.config.intervalStep).elim s (s.edit now)).work := by
  cases f with
  | nextCell => exact s.work_selectCell _ _
  | prevCell => exact s.work_selectCell _ _
  | _ => rfl

theorem work_arrow (a : KeyCode) : (s.arrow a).work = s.work := by
  unfold arrow
  split <;> rfl

/-- The edit that a key makes while no question is open. -/
def keyEdit? (s : Editor) (k : Key) : Option Edit :=
  match Request.ofKey? s.config.keys k with
  | some (.function f) => f.edit? s.config.intervalStep
  | _ => none

theorem work_pressNormal (k : Key) :
    (s.pressNormal now k).1.work = ((s.keyEdit? k).elim s (s.edit now)).work := by
  unfold pressNormal keyEdit?
  cases Request.ofKey? s.config.keys k with
  | none => rfl
  | some r =>
    cases r with
    | pixel a => exact work_arrow _ a
    | function f =>
      have hquiet : ({ s with status := none }.perform now f).work =
          ((f.edit? s.config.intervalStep).elim s (s.edit now)).work := by
        rw [work_perform]
        cases f.edit? s.config.intervalStep with
        | none => rfl
        | some e => exact s.work_edit_status now none e
      cases f with
      | quit => cases s.dirty <;> rfl
      | save => rfl
      | exportSketch => rfl
      | _ => exact hquiet

/-! ## Answers -/

theorem pressAsking_of_saysYes (q : Question) {yes : Bool} {k : Key}
    (h : SaysYes s.config.keys yes k) : s.pressAsking q yes k = s.answer q true := by
  unfold pressAsking
  rcases h with hy | hY | ⟨rfl, hconfirm, hcode⟩
  · rw [hy]
    rfl
  · rw [hY]
    rfl
  · simp only [List.mem_cons, List.not_mem_nil, or_false, not_or] at hcode
    obtain ⟨hup, hdown, hleft, hright, htab, hn, hN⟩ := hcode
    split
    next h => exact absurd h hup
    next h => exact absurd h hdown
    next h => exact absurd h hleft
    next h => exact absurd h hright
    next h => exact absurd h htab
    next => rfl
    next => rfl
    next h => exact absurd h hn
    next h => exact absurd h hN
    next => rw [if_pos hconfirm]

/-- An answer that is no leaves the work alone and does not quit. -/
theorem answer_no (q : Question) :
    (s.answer q false).1.work = s.work ∧ (s.answer q false).2 ≠ .quit := by
  cases q <;> exact ⟨rfl, nofun⟩

/-- Any other key leaves the work alone and does not quit. -/
theorem pressAsking_of_not_saysYes (q : Question) {yes : Bool} {k : Key}
    (h : ¬ SaysYes s.config.keys yes k) :
    (s.pressAsking q yes k).1.work = s.work ∧ (s.pressAsking q yes k).2 ≠ .quit := by
  unfold pressAsking
  split
  next hcode => exact ⟨rfl, nofun⟩
  next hcode => exact ⟨rfl, nofun⟩
  next hcode => exact ⟨rfl, nofun⟩
  next hcode => exact ⟨rfl, nofun⟩
  next hcode => exact ⟨rfl, nofun⟩
  next hcode => exact absurd (.inl hcode) h
  next hcode => exact absurd (.inr (.inl hcode)) h
  next hcode => exact s.answer_no q
  next hcode => exact s.answer_no q
  next hup hdown hleft hright htab hy hY hn hN =>
    split
    next hconfirm =>
      -- the key confirms, so the marked answer was no
      cases yes with
      | false => exact s.answer_no q
      | true =>
        refine absurd (.inr (.inr ⟨rfl, hconfirm, ?_⟩)) h
        simp only [List.mem_cons, List.not_mem_nil, or_false, not_or]
        exact ⟨hup, hdown, hleft, hright, htab, hn, hN⟩
    next =>
      split
      next => exact s.answer_no q
      next => exact ⟨rfl, nofun⟩

/-! ## Mouse -/

/-- The edit that a report of the mouse makes while no question is open. -/
def mouseEdit? (l : Layout) (m : Mouse) : Option Edit :=
  match m.action with
  | .down .left => (l.pixelAt? ⟨m.column, m.row⟩).map fun p => .beginPaint p.1 p.2
  | .drag .left => (l.pixelAt? ⟨m.column, m.row⟩).map fun p => .paintAt p.1 p.2
  | .up .left => some .endPaint
  | _ => none

theorem work_mouseDown (l : Layout) (p : Position) :
    (s.mouseDown l p).1.work =
      ((l.pixelAt? p).elim s fun pixel => s.beginPaint pixel.1 pixel.2).work := by
  unfold mouseDown
  cases l.pixelAt? p with
  | some pixel => rfl
  | none =>
    cases slotAt? l.lcd p with
    | some slot => exact s.work_selectCell _ _
    | none => rfl

theorem work_mouseDrag (l : Layout) (p : Position) :
    (s.mouseDrag l p).1.work =
      ((l.pixelAt? p).elim s fun pixel => s.paintAt pixel.1 pixel.2).work := by
  unfold mouseDrag
  cases l.pixelAt? p with
  | none => rfl
  | some pixel =>
    unfold paintAt
    cases s.paint <;> rfl

theorem work_mouseNormal (l : Layout) (m : Mouse) :
    (s.mouseNormal l m).1.work = ((mouseEdit? l m).elim s (s.edit now)).work := by
  obtain ⟨action, column, row⟩ := m
  cases action with
  | down b =>
    cases b with
    | left =>
      refine (s.work_mouseDown l ⟨column, row⟩).trans ?_
      unfold mouseEdit?
      cases l.pixelAt? ⟨column, row⟩ <;> rfl
    | _ => rfl
  | drag b =>
    cases b with
    | left =>
      refine (s.work_mouseDrag l ⟨column, row⟩).trans ?_
      unfold mouseEdit?
      cases l.pixelAt? ⟨column, row⟩ <;> rfl
    | _ => rfl
  | up b => cases b <;> rfl
  | _ => rfl

/-! ## Events -/

/-- The edit that an event makes, if it makes one. -/
def editOf? (s : Editor) (l : Layout) : Event → Option Edit
  | .key k =>
    match s.mode with
    | .normal => s.keyEdit? k
    | .asking .reset yes => if SaysYes s.config.keys yes k then some .resetDisplay else none
    | .asking .quit _ => none
  | .mouse m =>
    match s.mode with
    | .normal => mouseEdit? l m
    | .asking _ _ => none
  | _ => none

/-- The work after an event is that after its edit. -/
theorem work_handle (l : Layout) (e : Event) :
    (s.handle now l e).1.work = ((s.editOf? l e).elim s (s.edit now)).work := by
  cases e with
  | key k =>
    show (s.press now k).1.work = _
    unfold press editOf?
    cases s.mode with
    | normal => exact s.work_pressNormal now k
    | asking q yes =>
      show (s.pressAsking q yes k).1.work = _
      by_cases hyes : SaysYes s.config.keys yes k
      · rw [s.pressAsking_of_saysYes q hyes]
        cases q with
        | reset =>
          simp only [if_pos hyes]
          rfl
        | quit => rfl
      · rw [(s.pressAsking_of_not_saysYes q hyes).1]
        cases q with
        | reset =>
          simp only [if_neg hyes]
          rfl
        | quit => rfl
  | mouse m =>
    show (s.mouse l m).1.work = _
    unfold mouse editOf?
    cases s.mode with
    | normal => exact s.work_mouseNormal now l m
    | asking q yes => rfl
  | _ => rfl

/-! ## Quitting -/

/-- The key that quits is tried before all others. -/
theorem ofKey?_eq_quit_iff {keys : KeyBindings} {k : Key} :
    Request.ofKey? keys k = some (.function .quit) ↔ keys.accepts .quit k = true := by
  constructor
  · intro h
    exact List.find?_some (p := Request.accepts keys k) h
  · intro h
    exact List.find?_cons_of_pos (p := Request.accepts keys k) h

theorem pressNormal_eq_quit_iff (k : Key) :
    (s.pressNormal now k).2 = .quit ↔
      s.dirty = false ∧ s.config.keys.accepts .quit k = true := by
  rw [← ofKey?_eq_quit_iff]
  unfold pressNormal
  cases Request.ofKey? s.config.keys k with
  | none => exact ⟨nofun, nofun⟩
  | some r =>
    cases r with
    | pixel a => exact ⟨nofun, nofun⟩
    | function f =>
      cases f with
      | quit =>
        cases s.dirty with
        | false => exact ⟨fun _ => ⟨rfl, rfl⟩, fun _ => rfl⟩
        | true => exact ⟨nofun, nofun⟩
      | _ => exact ⟨nofun, nofun⟩

theorem pressAsking_eq_quit_iff (q : Question) (yes : Bool) (k : Key) :
    (s.pressAsking q yes k).2 = .quit ↔ q = .quit ∧ SaysYes s.config.keys yes k := by
  by_cases hyes : SaysYes s.config.keys yes k
  · rw [s.pressAsking_of_saysYes q hyes]
    cases q with
    | reset => exact ⟨nofun, nofun⟩
    | quit => exact ⟨fun _ => ⟨rfl, hyes⟩, fun _ => rfl⟩
  · constructor
    · intro hquit
      exact absurd hquit (s.pressAsking_of_not_saysYes q hyes).2
    · rintro ⟨-, h⟩
      exact absurd h hyes

theorem mouseDown_ne_quit (l : Layout) (p : Position) : (s.mouseDown l p).2 ≠ .quit := by
  unfold mouseDown
  cases l.pixelAt? p with
  | some pixel => exact nofun
  | none => cases slotAt? l.lcd p <;> exact nofun

theorem mouseDrag_ne_quit (l : Layout) (p : Position) : (s.mouseDrag l p).2 ≠ .quit := by
  unfold mouseDrag
  cases l.pixelAt? p with
  | none => exact nofun
  | some pixel => cases s.paint <;> exact nofun

theorem mouse_ne_quit (l : Layout) (m : Mouse) : (s.mouse l m).2 ≠ .quit := by
  obtain ⟨action, column, row⟩ := m
  unfold mouse
  cases s.mode with
  | asking q yes => exact nofun
  | normal =>
    cases action with
    | down b =>
      cases b with
      | left => exact s.mouseDown_ne_quit l ⟨column, row⟩
      | _ => exact nofun
    | drag b =>
      cases b with
      | left => exact s.mouseDrag_ne_quit l ⟨column, row⟩
      | _ => exact nofun
    | up b => cases b <;> exact nofun
    | _ => exact nofun

/-- The editor quits at the key that is bound to it while there are no unsaved changes, and when
the question whether to quit is answered with yes. -/
theorem handle_eq_quit_iff (l : Layout) (e : Event) :
    (s.handle now l e).2 = .quit ↔ ∃ k, e = .key k ∧
      (s.mode = .normal ∧ s.dirty = false ∧ s.config.keys.accepts .quit k = true ∨
        ∃ yes, s.mode = .asking .quit yes ∧ SaysYes s.config.keys yes k) := by
  cases e with
  | key k =>
    show (s.press now k).2 = .quit ↔ _
    unfold press
    cases s.mode with
    | normal =>
      refine (s.pressNormal_eq_quit_iff now k).trans ?_
      constructor
      · rintro ⟨hclean, hkey⟩
        exact ⟨k, rfl, .inl ⟨rfl, hclean, hkey⟩⟩
      · rintro ⟨_, ⟨⟩, ⟨-, hclean, hkey⟩ | ⟨_, ⟨⟩, -⟩⟩
        exact ⟨hclean, hkey⟩
    | asking q yes =>
      refine (s.pressAsking_eq_quit_iff q yes k).trans ?_
      constructor
      · rintro ⟨rfl, hyes⟩
        exact ⟨k, rfl, .inr ⟨yes, rfl, hyes⟩⟩
      · rintro ⟨_, ⟨⟩, ⟨⟨⟩, -, -⟩ | ⟨_, ⟨⟩, hyes⟩⟩
        exact ⟨rfl, hyes⟩
  | mouse m =>
    constructor
    · intro hquit
      exact absurd hquit (s.mouse_ne_quit l m)
    · rintro ⟨_, ⟨⟩, -⟩
  | _ =>
    constructor
    · intro hquit
      cases hquit
    · rintro ⟨_, ⟨⟩, -⟩

end Editor
end CharLcd
