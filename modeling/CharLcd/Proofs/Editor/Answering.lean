import CharLcd.Proofs.Editor.Event
import CharLcd.Proofs.Editor.Handling
import CharLcd.Proofs.Editor.Move

/-!
# Questions and their answers

A question is opened with no as the marked answer. It waits for a key that decides it; until then
keys can only move the mark, and nothing else changes but a preview that plays.

- `Decides`, `Key.marks`: the keys that decide a question and those that move the mark.
- `Editor.pressAsking_of_marks`, `Editor.pressAsking_of_decides`,
  `Editor.pressAsking_of_not_decides`: all that a key can do to a question.
- `Move.waits`: a move that leaves a question open; `Editor.moves_of_waits` is what a run of them
  leaves.
- `Editor.question_waits_for_yes`: what is asked for happens at a deciding key that says yes, and at
  no other.
-/

namespace CharLcd

open LcdView Terminal

attribute [local instance] Clock.nanoseconds

/-- The keys that move the mark between the answers. -/
def Terminal.Key.marks (k : Key) : Bool := k.code ∈ [.up, .down, .left, .right, .tab]

/-- A key decides a question: `y` or `n`, large or small, or a key that does not move the mark and
is bound to confirming or to cancelling. -/
def Decides (keys : KeyBindings) (k : Key) : Prop :=
  k.code ∈ [.char 'y', .char 'Y', .char 'n', .char 'N'] ∨
    k.marks = false ∧ (keys.accepts .confirm k = true ∨ keys.accepts .cancel k = true)

instance (keys : KeyBindings) (k : Key) : Decidable (Decides keys k) :=
  inferInstanceAs (Decidable (_ ∨ _))

namespace Move

/-- A move that leaves a question open: an event that is no deciding key, or a tick. -/
def waits (keys : KeyBindings) : Move → Bool
  | .event _ _ (.key k) => !decide (Decides keys k)
  | .event _ _ _ => true
  | .tick _ => true
  | _ => false

/-- A key that moves the mark. -/
def marks : Move → Bool
  | .event _ _ (.key k) => k.marks
  | _ => false

/-- The preview after a tick; other moves do not concern it while a question is open. -/
def advance (p : Playback) : Move → Playback
  | .tick now => (p.advance now).1
  | _ => p

end Move

/-! ## Keys -/

section

variable {keys : KeyBindings} {k : Key}

theorem Decides.marks_eq_false (h : Decides keys k) : k.marks = false := by
  rcases h with hcode | ⟨hmarks, -⟩
  · unfold Key.marks
    simp only [List.mem_cons, List.not_mem_nil, or_false] at hcode
    rcases hcode with hcode | hcode | hcode | hcode <;> rw [hcode] <;> rfl
  · exact hmarks

/-- A key that decides says yes if it is `y`, or if it confirms while yes is marked and is not
`n`. -/
theorem Decides.saysYes_iff (h : Decides keys k) {yes : Bool} :
    SaysYes keys yes k ↔
      k.code ∈ [.char 'y', .char 'Y'] ∨
        k.code ∉ [.char 'n', .char 'N'] ∧ keys.accepts .confirm k = true ∧ yes = true := by
  have hmarks : k.code ∉ [.up, .down, .left, .right, .tab] := of_decide_eq_false h.marks_eq_false
  unfold SaysYes
  simp only [List.mem_cons, List.not_mem_nil, or_false, not_or] at hmarks ⊢
  constructor
  · rintro (hy | hY | ⟨hyes, hconfirm, -, -, -, -, -, hn⟩)
    · exact .inl (.inl hy)
    · exact .inl (.inr hY)
    · exact .inr ⟨hn, hconfirm, hyes⟩
  · rintro ((hy | hY) | ⟨hn, hconfirm, hyes⟩)
    · exact .inl hy
    · exact .inr (.inl hY)
    · obtain ⟨hup, hdown, hleft, hright, htab⟩ := hmarks
      exact .inr (.inr ⟨hyes, hconfirm, hup, hdown, hleft, hright, htab, hn⟩)

end

namespace Editor

section

variable (s : Editor) (now : Time) (q : Question) (yes : Bool) {k : Key}

theorem pressAsking_of_marks (h : k.marks = true) :
    s.pressAsking q yes k = ({ s with mode := .asking q !yes }, .redraw) := by
  have hcode := of_decide_eq_true h
  simp only [List.mem_cons, List.not_mem_nil, or_false] at hcode
  unfold pressAsking
  rcases hcode with hcode | hcode | hcode | hcode | hcode <;> rw [hcode]

theorem pressAsking_of_decides (h : Decides s.config.keys k) :
    s.pressAsking q yes k = s.answer q (decide (SaysYes s.config.keys yes k)) := by
  by_cases hyes : SaysYes s.config.keys yes k
  · rw [decide_eq_true hyes]
    exact s.pressAsking_of_saysYes q hyes
  · rw [decide_eq_false hyes]
    have hmarks := h.marks_eq_false
    unfold pressAsking
    split
    case h_1 hcode | h_2 hcode | h_3 hcode | h_4 hcode | h_5 hcode =>
      simp [Key.marks, hcode] at hmarks
    next hcode => exact absurd (.inl hcode) hyes
    next hcode => exact absurd (.inr (.inl hcode)) hyes
    next => rfl
    next => rfl
    next hy hY hn hN =>
      by_cases hconfirm : s.config.keys.accepts .confirm k = true
      · rw [if_pos hconfirm]
        cases yes with
        | false => rfl
        | true =>
          refine absurd (h.saysYes_iff.mpr (.inr ⟨?_, hconfirm, rfl⟩)) hyes
          simp only [List.mem_cons, List.not_mem_nil, or_false]
          exact not_or.mpr ⟨hn, hN⟩
      · have hcancel : s.config.keys.accepts .cancel k = true := by
          rcases h with hcode | ⟨-, hbound⟩
          · simp only [List.mem_cons, List.not_mem_nil, or_false] at hcode
            rcases hcode with hcode | hcode | hcode | hcode
            · exact absurd hcode hy
            · exact absurd hcode hY
            · exact absurd hcode hn
            · exact absurd hcode hN
          · exact hbound.resolve_left hconfirm
        rw [if_neg hconfirm, if_pos hcancel]

theorem pressAsking_of_not_decides (hmarks : k.marks = false) (h : ¬ Decides s.config.keys k) :
    s.pressAsking q yes k = (s, .ignore) := by
  have hcode : k.code ∉ [.char 'y', .char 'Y', .char 'n', .char 'N'] := fun hcode => h (.inl hcode)
  unfold pressAsking
  split
  case h_1 hmark | h_2 hmark | h_3 hmark | h_4 hmark | h_5 hmark =>
    simp [Key.marks, hmark] at hmarks
  case h_6 hkey | h_7 hkey | h_8 hkey | h_9 hkey => simp [hkey] at hcode
  next =>
    rw [if_neg fun hconfirm => h (.inr ⟨hmarks, .inl hconfirm⟩),
      if_neg fun hcancel => h (.inr ⟨hmarks, .inr hcancel⟩)]

/-! ## Opening a question -/

theorem mode_perform {f : KeyFunction} (hf : f ≠ .resetDisplay) :
    (s.perform now f).mode = s.mode := by
  cases f with
  | resetDisplay => exact absurd rfl hf
  | nextCell | prevCell =>
    show (s.selectCell _ _).mode = s.mode
    rw [selectCell_eq]
  | pasteCell => exact s.mode_edit now .pasteCell
  | play => exact s.mode_edit now .togglePlayback
  | transmission | numberFormat | scrolling | buffered | direction | slower | faster =>
    exact s.mode_edit now (.updateOptions _)
  | _ => rfl

/-- A question is opened with no as the marked answer. -/
theorem unmarked_of_asks {l : Layout} {e : Event} {q : Question} {yes : Bool}
    (hmode : s.mode = .normal) (hasks : (s.handle now l e).1.mode = .asking q yes) :
    yes = false := by
  have hclosed (t : Editor) (ht : t.mode = s.mode) (hasking : t.mode = .asking q yes) :
      yes = false := by
    rw [ht, hmode] at hasking
    cases hasking
  have h := s.handled_handle now l e
  generalize s.handle now l e = r at h hasks
  cases h with
  | moved a =>
    refine hclosed _ ?_ hasks
    rw [arrow_eq]
  | performed f =>
    by_cases hf : f = .resetDisplay
    · subst hf
      cases hasks
      rfl
    · exact hclosed ({ s with status := none }.perform now f) (mode_perform _ now hf) hasks
  | asked =>
    cases hasks
    rfl
  | marked q yes hasking | answered q yes said hasking =>
    rw [hmode] at hasking
    cases hasking
  | pressed row column => exact hclosed _ (s.mode_edit now (.beginPaint row column)) hasks
  | selected line column =>
    refine hclosed _ ?_ hasks
    rw [selectCell_eq]
  | dragged row column =>
    exact hclosed ({ s with pixelRow := row, pixelColumn := column }.paintAt row column)
      (mode_edit _ now (.paintAt row column)) hasks
  | _ => exact hclosed _ rfl hasks

end

/-! ## An open question -/

section

variable {s : Editor} {q : Question} {yes : Bool}

/-- A move that leaves a question open moves the mark, or lets time pass. -/
theorem move_of_waits (hmode : s.mode = .asking q yes) {m : Move}
    (hm : m.waits s.config.keys = true) :
    s.move m =
      { s with mode := .asking q (yes ^^ m.marks), playback := m.advance s.playback } := by
  have hstays : { s with mode := .asking q (yes ^^ false) } = s := by
    rw [Bool.xor_false, ← hmode]
  cases m with
  | event now l e =>
    cases e with
    | key k =>
      have hpress : (s.handle now l (.key k)).1 = (s.pressAsking q yes k).1 := by
        show (s.press now k).1 = _
        unfold press
        rw [hmode]
      have hundecided : ¬ Decides s.config.keys k := by
        simpa [Move.waits] using hm
      show (s.handle now l (.key k)).1 = { s with mode := .asking q (yes ^^ k.marks) }
      rw [hpress]
      cases hmarks : k.marks with
      | true =>
        rw [s.pressAsking_of_marks q yes hmarks, Bool.xor_true]
      | false =>
        rw [s.pressAsking_of_not_decides q yes hmarks hundecided]
        exact hstays.symm
    | mouse m =>
      show (s.mouse l m).1 = { s with mode := .asking q (yes ^^ false) }
      unfold mouse
      rw [hmode]
      exact hstays.symm
    | _ => exact hstays.symm
  | tick now =>
    show { s with playback := (s.playback.advance now).1 } =
      { s with mode := .asking q (yes ^^ false), playback := (s.playback.advance now).1 }
    rw [Bool.xor_false, ← hmode]
  | _ => cases hm

/-- A run of such moves leaves the question open, with the mark moved as often as a key has moved
it, and changes nothing else but the preview. -/
theorem moves_of_waits (hmode : s.mode = .asking q yes) {ms : List Move}
    (hms : ∀ m ∈ ms, m.waits s.config.keys = true) :
    s.moves ms =
      { s with
        mode := .asking q (yes ^^ decide (ms.countP Move.marks % 2 = 1))
        playback := ms.foldl Move.advance s.playback } := by
  induction ms generalizing s yes with
  | nil =>
    show s = { s with mode := .asking q (yes ^^ false) }
    rw [Bool.xor_false, ← hmode]
  | cons m ms ih =>
    have hfirst := move_of_waits hmode (hms m List.mem_cons_self)
    have hopen : (s.move m).mode = .asking q (yes ^^ m.marks) := by rw [hfirst]
    have hrest : ∀ m' ∈ ms, m'.waits (s.move m).config.keys = true := by
      rw [hfirst]
      exact fun m hm => hms m (List.mem_cons_of_mem _ hm)
    have hparity : decide ((m :: ms).countP Move.marks % 2 = 1) =
        (m.marks ^^ decide (ms.countP Move.marks % 2 = 1)) := by
      rw [List.countP_cons]
      cases m.marks with
      | false => simp
      | true =>
        rw [if_pos rfl, Bool.true_xor, ← decide_not]
        exact decide_eq_decide.mpr (by omega)
    rw [moves_cons, ih hopen hrest, hfirst, hparity, Bool.xor_assoc]
    rfl

/-- An event that leaves a question open asks for nothing but the screen to be drawn. -/
theorem handle_of_waits (hmode : s.mode = .asking q yes) {now : Time} {l : Layout} {e : Event}
    (he : (Move.event now l e).waits s.config.keys = true) :
    (s.handle now l e).2 = .ignore ∨ (s.handle now l e).2 = .redraw := by
  cases e with
  | key k =>
    have hundecided : ¬ Decides s.config.keys k := by
      simpa [Move.waits] using he
    show (s.press now k).2 = .ignore ∨ (s.press now k).2 = .redraw
    unfold press
    rw [hmode]
    dsimp only
    cases hmarks : k.marks with
    | true =>
      rw [s.pressAsking_of_marks q yes hmarks]
      exact .inr rfl
    | false =>
      rw [s.pressAsking_of_not_decides q yes hmarks hundecided]
      exact .inl rfl
  | mouse m =>
    show (s.mouse l m).2 = .ignore ∨ (s.mouse l m).2 = .redraw
    unfold mouse
    rw [hmode]
    exact .inl rfl
  | resize => exact .inr rfl
  | _ => exact .inl rfl

/-- A deciding key is the answer yes or no. -/
theorem handle_of_decides (hmode : s.mode = .asking q yes) (now : Time) (l : Layout) {k : Key}
    (hk : Decides s.config.keys k) :
    s.handle now l (.key k) = s.answer q (decide (SaysYes s.config.keys yes k)) := by
  show s.press now k = _
  unfold press
  rw [hmode]
  exact s.pressAsking_of_decides q yes hk

end

/-- Once an event has opened a question, nothing changes until a key decides it but the mark, which
keys move to and fro, and the preview, which plays on; nothing is quit, saved or exported. The
deciding key does what is asked for if it is `y`, or if it confirms, is not `n`, and the mark has
been moved an odd number of times. Resetting blanks all cells, stops the preview and marks unsaved
changes, with the options and the copied bitmap as they were. Any other deciding key closes the
question and changes nothing else. -/
theorem question_waits_for_yes {s : Editor} {now : Time} {l : Layout} {e : Event} {q : Question}
    {marked : Bool} (hmode : s.mode = .normal)
    (hasks : (s.handle now l e).1.mode = .asking q marked) {ms : List Move}
    (hms : ∀ m ∈ ms, m.waits (s.handle now l e).1.config.keys = true) :
    let asked := (s.handle now l e).1
    let keys := asked.config.keys
    let odd := ms.countP Move.marks % 2 = 1
    let t := asked.moves ms
    t = { asked with
      mode := .asking q (decide odd), playback := ms.foldl Move.advance asked.playback } ∧
    (∀ now l e, (Move.event now l e).waits keys = true →
      (t.handle now l e).2 = .ignore ∨ (t.handle now l e).2 = .redraw) ∧
    ∀ now l k, Decides keys k →
      let after := t.handle now l (.key k)
      let yes := k.code ∈ [.char 'y', .char 'Y'] ∨
        k.code ∉ [.char 'n', .char 'N'] ∧ keys.accepts .confirm k = true ∧ odd
      (¬ yes → after = ({ t with mode := .normal }, .redraw)) ∧
      (yes → q = .quit → after = ({ t with mode := .normal }, .quit)) ∧
      (yes → q = .reset →
        after.2 = .redraw ∧
        after.1 = { t with
          mode := .normal, session := after.1.session, playback := .stopped, dirty := true } ∧
        (∀ line column, after.1.session.display.get line column = Bitmap.blank) ∧
        after.1.session.options = t.session.options ∧
        after.1.session.clipboard = t.session.clipboard) := by
  intro asked keys odd t
  obtain rfl := s.unmarked_of_asks now hmode hasks
  have ht : t = { asked with
      mode := .asking q (decide odd), playback := ms.foldl Move.advance asked.playback } := by
    have hrun := moves_of_waits hasks hms
    rw [Bool.false_xor] at hrun
    exact hrun
  have hopen : t.mode = .asking q (decide odd) := by rw [ht]
  have hkeys : t.config.keys = keys := by rw [ht]
  refine ⟨ht, ?_, ?_⟩
  · intro now l e he
    rw [← hkeys] at he
    exact handle_of_waits hopen he
  · intro now l k hk after yes
    rw [← hkeys] at hk
    have hafter : after = t.answer q (decide (SaysYes t.config.keys (decide odd) k)) :=
      handle_of_decides hopen now l hk
    have hyes : SaysYes t.config.keys (decide odd) k ↔ yes := by
      rw [hk.saysYes_iff, hkeys, decide_eq_true_iff]
    refine ⟨?_, ?_, ?_⟩
    · intro hno
      rw [hafter, decide_eq_false (mt hyes.mp hno)]
      cases q <;> rfl
    · rintro hsays rfl
      rw [hafter, decide_eq_true (hyes.mpr hsays)]
      rfl
    · rintro hsays rfl
      rw [hafter, decide_eq_true (hyes.mpr hsays)]
      exact ⟨rfl, rfl, Display.get_blank, rfl, rfl⟩

/-- The question whether to clear the cells is opened while the preview plays. The mark is moved
three times, in between a pixel is clicked, the preview advances, and a key is pressed that means
nothing. Then the key confirms that is bound to it. -/
theorem question_waits_for_yes_marked_thrice :
    let l := Layout.ofSize ⟨160, 50⟩
    let config : EditorConfig := { keys := ({} : KeyBindings).bind .confirm "BackTab" }
    let opened := ofSession (Session.ofDesign Display.blank { scrolling := true }) "design.json"
      config
    let s := opened.moves [.edit 0 .togglePixel, .edit 0 .togglePlayback]
    let e := Event.key ⟨.char 'R', {}⟩
    let asked := (s.handle 0 l e).1
    let ms := [Move.event 0 l (.key ⟨.up, {}⟩), .event 0 l (.mouse ⟨.down .left, 4, 15⟩),
      .tick (milliseconds 300), .event 0 l (.key ⟨.tab, {}⟩), .event 0 l (.key ⟨.enter, {}⟩),
      .event 0 l .resize, .event 0 l (.key ⟨.left, {}⟩)]
    let t := asked.moves ms
    let k : Key := ⟨.backTab, {}⟩
    let after := t.handle 0 l (.key k)
    s.mode = .normal ∧ asked.mode = .asking .reset false ∧
      (∀ m ∈ ms, m.waits asked.config.keys = true) ∧ Decides asked.config.keys k ∧
      t.session.display ≠ Display.blank ∧ t.playback.tick = 1 ∧
      t = { asked with
        mode := .asking .reset true, playback := ms.foldl Move.advance asked.playback } ∧
      after.2 = .redraw ∧ after.1.playback = .stopped ∧
      (∀ line column, after.1.session.display.get line column = Bitmap.blank) ∧
      after.1.session.options = t.session.options := by
  intro l config opened s e asked ms t k after
  have hmode : s.mode = .normal := by decide
  have hasks : asked.mode = .asking .reset false := by decide
  have hms : ∀ m ∈ ms, m.waits asked.config.keys = true := by decide
  have hk : Decides asked.config.keys k := by decide
  have hshown : t.session.display ≠ Display.blank ∧ t.playback.tick = 1 := by decide +kernel
  have hodd : decide (ms.countP Move.marks % 2 = 1) = true := by decide
  have hyes : k.code ∈ [.char 'y', .char 'Y'] ∨ k.code ∉ [.char 'n', .char 'N'] ∧
      asked.config.keys.accepts .confirm k = true ∧ ms.countP Move.marks % 2 = 1 := by decide
  -- from here on the editor need not be evaluated
  clear_value s
  obtain ⟨ht, -, hdecided⟩ := question_waits_for_yes hmode hasks hms
  rw [hodd] at ht
  obtain ⟨hdraw, hafter, hblank, hoptions, -⟩ := (hdecided 0 l k hk).2.2 hyes rfl
  exact ⟨hmode, hasks, hms, hk, hshown.1, hshown.2, ht, hdraw, congrArg Editor.playback hafter,
    hblank, hoptions⟩

end Editor

end CharLcd
