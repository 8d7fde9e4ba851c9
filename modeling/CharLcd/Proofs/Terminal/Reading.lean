import CharLcd.Proofs.Terminal.Printing
import Mathlib.Data.List.Nodup

/-!
# Reading a screen

What can be read off a screen after drawing. The look of the text before has no influence on the
characters, and reverse video that was on before can only add to what is in reverse video.

- `Look.Related`: a relation between looks that all commands keep; `related_true` and
  `related_reverse` are the two that are used.
- `Screen.AlikeAt`: two screens that agree at a position in its character and are related in its
  look are so after the same commands (`AlikeAt.run`).
- `Screen.drawTexts`: plain texts at several places; where no two of them share a position, all can
  be read (`cell_run_drawTexts`).
-/

namespace CharLcd.Terminal

/-! ## Related looks -/

namespace Look

/-- Commands keep the relation between the looks of two texts. -/
structure Related (R : Look → Look → Prop) : Prop where
  refl : ∀ l, R l l
  set : ∀ {l l' : Look} (a : Attribute), R l l' → R (l.set a) (l'.set a)
  before : ∀ {l l' : Look} (style : Style), R l l' → R (l.before style) (l'.before style)
  after : ∀ {l l' : Look} (style : Style), R l l' → R (l.after style) (l'.after style)

/-- Where only the characters matter, the look does not. -/
theorem related_true : Related fun _ _ => True where
  refl _ := trivial
  set _ _ := trivial
  before _ _ := trivial
  after _ _ := trivial

theorem reverse_before (l : Look) (style : Style) :
    (l.before style).reverse = (l.reverse || style.reverse) := by
  obtain ⟨background, foreground, dim, reverse⟩ := style
  cases dim <;> cases reverse <;> simp [before, Style.attributes, set]

theorem reverse_after (l : Look) (style : Style) :
    (l.after style).reverse = (l.reverse && style.attributes.isEmpty) := by
  rw [after]
  cases style.attributes.isEmpty with
  | true => exact (Bool.and_true _).symm
  | false => exact (Bool.and_false _).symm

/-- What is in reverse video in the first text is so in the second. -/
theorem related_reverse : Related fun l l' => l.reverse = true → l'.reverse = true where
  refl _ h := h
  set a h := by
    cases a with
    | reverse => exact id
    | bold | dim => exact h
  before style h := by
    rw [reverse_before, reverse_before, Bool.or_eq_true, Bool.or_eq_true]
    exact Or.imp_left h
  after style h := by
    rw [reverse_after, reverse_after, Bool.and_eq_true, Bool.and_eq_true]
    exact And.imp_left h

end Look

namespace Screen

variable {s t : Screen} {p : Position}

section

variable {R : Look → Look → Prop}

/-- The screens agree at a position in its character and are related in its look, and in what the
same commands make of them. -/
structure AlikeAt (R : Look → Look → Prop) (s t : Screen) (p : Position) : Prop where
  size_eq : s.size = t.size
  cursor_eq : s.cursor = t.cursor
  look : R s.look t.look
  char_eq : (s.cell p).char = (t.cell p).char
  cell : R (s.cell p).look (t.cell p).look

theorem AlikeAt.print (h : s.AlikeAt R t p) (text : List Char) :
    (s.print text).AlikeAt R (t.print text) p := by
  have hcell : ((s.print text).cell p).char = ((t.print text).cell p).char ∧
      R ((s.print text).cell p).look ((t.print text).cell p).look := by
    rw [cell_print, cell_print, h.size_eq, h.cursor_eq]
    split
    · cases text[p.column - t.cursor.column]? with
      | some c => exact ⟨rfl, h.look⟩
      | none => exact ⟨h.char_eq, h.cell⟩
    · exact ⟨h.char_eq, h.cell⟩
  refine ⟨?_, ?_, ?_, hcell.1, hcell.2⟩
  · rw [size_print, size_print, h.size_eq]
  · rw [cursor_print, cursor_print, h.cursor_eq]
  · rw [look_print, look_print]
    exact h.look

theorem AlikeAt.perform (hR : Look.Related R) (h : s.AlikeAt R t p) (c : Command) :
    (s.perform c).AlikeAt R (t.perform c) p := by
  cases c with
  | moveTo column row => exact { h with cursor_eq := rfl }
  | print text => exact h.print text.toList
  | set a => exact { h with look := hR.set a h.look }
  | reset => exact { h with look := hR.refl _ }
  | styled style text =>
    have hbefore : AlikeAt R { s with look := s.look.before style }
        { t with look := t.look.before style } p :=
      { h with look := hR.before style h.look }
    have hprinted := hbefore.print text.toList
    exact { hprinted with look := hR.after style hprinted.look }
  | clearScreen => exact { h with char_eq := rfl, cell := hR.refl _ }
  | clearLine =>
    have hcell : (if p.row = s.cursor.row then ({} : Cell) else s.cell p).char =
        (if p.row = t.cursor.row then ({} : Cell) else t.cell p).char ∧
        R (if p.row = s.cursor.row then ({} : Cell) else s.cell p).look
          (if p.row = t.cursor.row then ({} : Cell) else t.cell p).look := by
      rw [h.cursor_eq]
      split
      · exact ⟨rfl, hR.refl _⟩
      · exact ⟨h.char_eq, h.cell⟩
    exact { h with char_eq := hcell.1, cell := hcell.2 }
  | _ => exact h

/-- Screens that are alike at a position are so after the same commands. -/
theorem AlikeAt.run (hR : Look.Related R) (h : s.AlikeAt R t p) (commands : List Command) :
    (s.run commands).AlikeAt R (t.run commands) p := by
  induction commands generalizing s t with
  | nil => exact h
  | cons c rest ih => exact ih (h.perform hR c)

end

/-- The screen with the same contents on which plain text is printed next. -/
def plain (s : Screen) : Screen := { s with look := {} }

@[simp] theorem look_plain (s : Screen) : s.plain.look = {} := rfl

/-- The characters that commands print do not depend on the look of the text before. -/
theorem char_run_plain (s : Screen) (commands : List Command) (p : Position) :
    ((s.run commands).cell p).char = ((s.plain.run commands).cell p).char := by
  have h : s.AlikeAt (fun _ _ => True) s.plain p := ⟨rfl, rfl, trivial, rfl, trivial⟩
  exact (h.run Look.related_true commands).char_eq

/-- What is in reverse video after plain text is so whatever the look of the text before. -/
theorem reverse_run_of_plain {commands : List Command}
    (h : ((s.plain.run commands).cell p).look.reverse = true) :
    ((s.run commands).cell p).look.reverse = true := by
  have halike : s.plain.AlikeAt (fun l l' => l.reverse = true → l'.reverse = true) s p :=
    ⟨rfl, rfl, fun h => absurd h Bool.false_ne_true, rfl, id⟩
  exact (halike.run Look.related_reverse commands).cell h

/-- Unless the text before was in reverse video, nothing else is. -/
theorem reverse_plain_of_run (hs : s.look.reverse = false) {commands : List Command}
    (h : ((s.run commands).cell p).look.reverse = true) :
    ((s.plain.run commands).cell p).look.reverse = true := by
  have halike : s.AlikeAt (fun l l' => l.reverse = true → l'.reverse = true) s.plain p :=
    ⟨rfl, rfl, fun h => absurd (hs.symm.trans h) Bool.false_ne_true, rfl, id⟩
  exact (halike.run Look.related_reverse commands).cell h

/-! ## Texts at several places -/

theorem nodup_span (start : Position) (length : Nat) : (span start length).Nodup := by
  refine List.nodup_range.map fun i j h => ?_
  exact Nat.add_left_cancel (Position.mk.inj h).1

/-- Texts in different rows share no position. -/
theorem disjoint_span_of_row_ne {a b : Position} (h : a.row ≠ b.row) (n m : Nat) :
    (span a n).Disjoint (span b m) := by
  intro p hp hq
  exact h ((mem_span.mp hp).1.symm.trans (mem_span.mp hq).1)

/-- A text that ends before another one begins shares no position with it. -/
theorem disjoint_span_of_le {a b : Position} {n : Nat} (h : a.column + n ≤ b.column) (m : Nat) :
    (span a n).Disjoint (span b m) := by
  intro p hp hq
  have hright := (mem_span.mp hp).2.2
  have hleft := (mem_span.mp hq).2.1
  omega

/-- Print plain texts, each at a place of its own. -/
def drawTexts (texts : List (Position × String)) : List Command :=
  texts.flatMap fun t => [.moveTo t.1.column t.1.row, .print t.2]

theorem drawing_drawTexts (texts : List (Position × String)) : Drawing (drawTexts texts) where
  movesFirst := movesFirst_flatMap fun _ _ => movesFirst_moveTo _ _ _
  stayPlain := stayPlain_flatMap fun _ _ => stayPlain_of_isPlain (by simp [Command.isPlain])
  clears_eq c hc := by
    obtain ⟨t, -, hc⟩ := List.mem_flatMap.mp hc
    rcases List.mem_pair.mp hc with rfl | rfl <;> rfl

theorem printed_drawTexts (cursor : Position) (texts : List (Position × String)) :
    printed cursor (drawTexts texts) = texts.flatMap fun t => span t.1 t.2.length := by
  rw [drawTexts, printed_flatMap fun _ _ => movesFirst_moveTo _ _ _]
  simp only [printed, List.append_nil]

theorem cell_run_text (s : Screen) (start : Position) (text : String) (p : Position) :
    (s.run [.moveTo start.column start.row, .print text]).cell p =
      if p.row = start.row ∧ start.column ≤ p.column ∧ s.size.contains p then
        match text.toList[p.column - start.column]? with
        | some c => ⟨c, s.look⟩
        | none => s.cell p
      else s.cell p :=
  cell_print { s with cursor := start } text.toList p

/-- Where no two texts share a position, every character of each of them can be read. -/
theorem cell_run_drawTexts (hs : s.look = {}) {texts : List (Position × String)}
    (hapart : texts.Pairwise fun t u =>
      (span t.1 t.2.length).Disjoint (span u.1 u.2.length))
    {text : Position × String} (hmem : text ∈ texts) (hrow : p.row = text.1.row)
    (hleft : text.1.column ≤ p.column) {c : Char}
    (hc : text.2.toList[p.column - text.1.column]? = some c) (hin : s.size.contains p = true) :
    (s.run (drawTexts texts)).cell p = ⟨c, {}⟩ := by
  induction texts generalizing s with
  | nil => cases hmem
  | cons first rest ih =>
    obtain ⟨hfirst, hrest⟩ := List.pairwise_cons.mp hapart
    have hplain : StayPlain [.moveTo first.1.column first.1.row, .print first.2] :=
      stayPlain_of_isPlain (by simp [Command.isPlain])
    rw [drawTexts, List.flatMap_cons, run_append]
    rcases List.mem_cons.mp hmem with rfl | hmem
    · -- the texts after it do not reach the position
      have hspan : p ∈ span text.1 text.2.length := by
        refine mem_span.mpr ⟨hrow, hleft, ?_⟩
        have hlt := (List.getElem?_eq_some_iff.mp hc).1
        rw [String.length_toList] at hlt
        omega
      refine ((drawing_drawTexts rest).cell_run ⟨0, 0⟩ fun hp => ?_).trans ?_
      · rw [printed_drawTexts] at hp
        obtain ⟨later, hlater, hp⟩ := List.mem_flatMap.mp hp
        exact absurd hp (hfirst later hlater hspan)
      · rw [cell_run_text, if_pos ⟨hrow, hleft, hin⟩, hc, hs]
    · rw [← size_run s [.moveTo first.1.column first.1.row, .print first.2]] at hin
      exact ih (hplain s hs) hrest hmem hin

/-- Where no two texts share a position, none is printed to twice. -/
theorem nodup_printed_drawTexts {texts : List (Position × String)}
    (hapart : texts.Pairwise fun t u =>
      (span t.1 t.2.length).Disjoint (span u.1 u.2.length)) (cursor : Position) :
    (printed cursor (drawTexts texts)).Nodup := by
  rw [printed_drawTexts, List.nodup_flatMap]
  exact ⟨fun t _ => nodup_span _ _, hapart⟩

end Screen

end CharLcd.Terminal
