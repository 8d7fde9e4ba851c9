import CharLcd.Editor.Loop
import CharLcd.Proofs.Editor.Handling
import CharLcd.Proofs.Editor.Move
import CharLcd.Proofs.Playback

/-!
# The screen after an event

The screen is drawn anew when an event asks for it. An event that does not ask changes nothing
that is shown, but for one: a key that means nothing takes away the message of the status line,
which stays on the screen.

- `Editor.unbound`: the keys that mean nothing.
- `Editor.exists_handle_eq_of_ignore`: what an event changes that asks for nothing.
- `Editor.drawScreen_silenced_iff`: the screen shows whether there is a message.
- `Editor.stale_only_after_unbound_key`: when the screen is out of date after an event.
-/

namespace CharLcd

open LcdView Terminal

namespace Editor

/-- A key while no question is open that asks for nothing. -/
def unbound (s : Editor) : Event → Bool
  | .key k => s.mode = .normal && (Request.ofKey? s.config.keys k).isNone
  | _ => false

section

variable (s : Editor) (now : Time)

/-! ## What is shown -/

/-- Of all panels only the status line shows the message. -/
theorem drawScreen_silenced_iff (paint : Option Bool) (size : Size) :
    { s with paint, status := none }.drawScreen size = s.drawScreen size ↔ s.message = "" := by
  have hpanels (t : Editor) : t.drawScreen size =
      (.clearScreen :: t.drawMenu (Layout.ofSize size) ++ t.drawLcd (Layout.ofSize size) ++
        t.drawPixels (Layout.ofSize size) ++ t.drawOptions (Layout.ofSize size) ++
        t.drawSketch (Layout.ofSize size)) ++ t.drawStatus (Layout.ofSize size) := rfl
  rw [hpanels, hpanels]
  constructor
  · intro h
    obtain ⟨-, hstatus⟩ := List.cons.inj (List.append_cancel_left h)
    obtain ⟨-, hstatus⟩ := List.cons.inj hstatus
    obtain ⟨-, hstatus⟩ := List.cons.inj hstatus
    obtain ⟨hprint, -⟩ := List.cons.inj hstatus
    -- the status line is the same text up to the message
    have htext := Command.print.inj hprint
    exact ((String.append_right_inj _).mp htext).symm
  · intro h
    refine congrArg _ ?_
    unfold drawStatus
    rw [h]
    rfl

/-! ## Events that ask for nothing -/

theorem answer_ne_ignore (q : Question) (said : Bool) : (s.answer q said).2 ≠ .ignore := by
  cases q <;> cases said <;> exact nofun

/-- An event that asks for nothing may end painting, and a key that means nothing takes the message
away. Nothing else changes. -/
theorem exists_handle_eq_of_ignore {l : Layout} {e : Event}
    (hignore : (s.handle now l e).2 = .ignore) :
    ∃ paint, (s.handle now l e).1 =
      { s with paint, status := if s.unbound e then none else s.status } := by
  have h := s.handled_handle now l e
  generalize s.handle now l e = r at h hignore ⊢
  cases h with
  | unbound hmode hkey =>
    refine ⟨s.paint, ?_⟩
    rw [if_pos (by simp [Editor.unbound, hmode, hkey])]
  | answered q yes said => exact absurd hignore (s.answer_ne_ignore q said)
  | unanswered q yes hmode =>
    refine ⟨s.paint, ?_⟩
    rw [if_neg (by simp [Editor.unbound, hmode])]
  | released => exact ⟨none, rfl⟩
  | missed | unheard => exact ⟨s.paint, rfl⟩
  | other hkey hmouse hresize =>
    refine ⟨s.paint, ?_⟩
    rw [if_neg]
    cases e with
    | key k => exact absurd rfl (hkey k)
    | _ => exact Bool.false_ne_true
  | _ => cases hignore

/-! ## Rounds that draw nothing -/

theorem drawTick_ne_nil (size : Size) : s.drawTick size ≠ [] := by
  have hoptions (l : Layout) : s.drawOptions l ≠ [] := by
    unfold drawOptions
    cases s.mode <;> exact List.cons_ne_nil _ _
  exact List.append_ne_nil_of_right_ne_nil _ (hoptions _)

/-- When no tick is drawn time has changed nothing. -/
theorem pass_of_drawn_eq_nil {size : Size} (h : (s.pass now size).2 = []) :
    (s.pass now size).1 = s := by
  have hadvanced : (s.advance now).2 = false := by
    rw [← Bool.not_eq_true]
    intro hadvanced
    refine drawTick_ne_nil (s.advance now).1 size ?_
    rw [← h]
    exact (if_pos hadvanced).symm
  have hplayback : (s.playback.advance now).1 = s.playback :=
    Playback.advance_of_snd_eq_false hadvanced
  show { s with playback := (s.playback.advance now).1 } = s
  rw [hplayback]

/-- A round that draws nothing is an event that asks for nothing. -/
theorem step_of_drawn_eq_nil {files : FileStore} {size : Size} {e : Event} {r : Step}
    (h : s.step files now size e = some r) (hdrawn : r.drawn = []) :
    (s.handle now (Layout.ofSize size) e).2 = .ignore ∧
      r.editor = (s.handle now (Layout.ofSize size) e).1 ∧ r.files = files := by
  unfold step at h
  generalize s.handle now (Layout.ofSize size) e = handled at h ⊢
  obtain ⟨s', action⟩ := handled
  cases action with
  | ignore =>
    cases h
    exact ⟨rfl, s'.pass_of_drawn_eq_nil now hdrawn, rfl⟩
  | quit => cases h
  | _ =>
    cases h
    cases hdrawn

end

/-- An event that asks for nothing, after which nothing but a tick is drawn, changes nothing that is
shown, unless it is a key that means nothing while there is a message: the message is taken away,
and it stays on the screen. So does every round that draws nothing. -/
theorem stale_only_after_unbound_key (s : Editor) (now : Time) (size : Size) (e : Event)
    (hignore : (s.handle now (Layout.ofSize size) e).2 = .ignore) :
    let s' := (s.handle now (Layout.ofSize size) e).1
    (∃ paint, s' = { s with paint, status := if s.unbound e then none else s.status }) ∧
    (s'.drawScreen size = s.drawScreen size ↔ s.unbound e = false ∨ s.message = "") ∧
    (∀ files r, s.step files now size e = some r → r.drawn = [] → r.editor = s') := by
  intro s'
  obtain ⟨paint, hs'⟩ := s.exists_handle_eq_of_ignore now hignore
  refine ⟨⟨paint, hs'⟩, ?_, fun files r hr hdrawn => (s.step_of_drawn_eq_nil now hr hdrawn).2.1⟩
  show (s.handle now (Layout.ofSize size) e).1.drawScreen size = _ ↔ _
  rw [hs']
  cases hunbound : s.unbound e with
  | false => exact ⟨fun _ => .inl rfl, fun _ => rfl⟩
  | true =>
    rw [if_pos rfl, drawScreen_silenced_iff]
    exact ⟨.inr, fun h => h.resolve_left Bool.true_eq_false.mp⟩

/-- A button that goes up leaves the screen as it is, with the message that the design has been
saved. -/
theorem stale_only_after_unbound_key_released :
    let size : Size := ⟨160, 50⟩
    let s := (ofSession (Session.ofDesign Display.blank {}) "design.json" {}).saved
    let e := Event.mouse ⟨.up .left, 2, 15⟩
    (s.handle 0 (Layout.ofSize size) e).2 = .ignore ∧ s.message = "Saved" ∧
      (s.handle 0 (Layout.ofSize size) e).1.drawScreen size = s.drawScreen size := by
  intro size s e
  have hignore : (s.handle 0 (Layout.ofSize size) e).2 = .ignore := rfl
  obtain ⟨-, hscreen, -⟩ := stale_only_after_unbound_key s 0 size e hignore
  exact ⟨hignore, by decide, hscreen.mpr (.inl rfl)⟩

/-- A cell is copied, and then a key is pressed that means nothing: the message that the cell has
been copied is gone, and nothing is drawn. -/
theorem message_lost_without_redraw :
    let size : Size := ⟨160, 50⟩
    let l := Layout.ofSize size
    let opened := ofSession (Session.ofDesign Display.blank {}) "design.json" {}
    let s := opened.moves [.event 0 l (.key ⟨.char 'y', {}⟩)]
    let e := Event.key ⟨.function 11, {}⟩
    (s.handle 0 l e).2 = .ignore ∧ s.status = some "Copied cell (0, 0)" ∧
      (s.handle 0 l e).1.status = none := by
  decide +kernel

end Editor

end CharLcd
