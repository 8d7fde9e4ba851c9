import CharLcd.Proofs.Terminal.Screen

/-!
# Where commands print

- `Screen.mem_span`, `Screen.printed_of_isText`: the positions of text.
- `Screen.MovesFirst`, `Screen.printed_append`: commands that begin with a move of the cursor print
  at the same positions wherever the cursor was before.
- `Screen.Drawing`: commands that only print; `Drawing.cell_run` and `Drawing.cell_run_congr` say
  what they do at a position that they do not print to, and at one that they do.
- `Area`, `Screen.DrawsIn`: drawing that keeps to a rectangle.
- `Screen.cell_run_redrawn`: when drawing two parts of a picture again is as good as drawing the
  whole picture.
-/

namespace CharLcd.Terminal

namespace Command

/-- The command clears a part of the screen. -/
def clears : Command → Bool
  | clearScreen | clearLine => true
  | _ => false

/-- The command neither moves the cursor by itself nor clears anything. -/
def isText : Command → Bool
  | moveTo _ _ | clearScreen | clearLine => false
  | _ => true

/-- The number of characters that the command prints. -/
def width : Command → Nat
  | print text | styled _ text => text.length
  | _ => 0

theorem clears_of_isText {c : Command} (h : c.isText = true) : c.clears = false := by
  cases c with
  | clearScreen | clearLine => cases h
  | _ => rfl

/-- Text stays in the row of the cursor. -/
theorem keepsTo_of_isText {c : Command} (h : c.isText = true) (rows : Nat → Prop) :
    c.KeepsTo rows := by
  cases c with
  | moveTo | clearScreen => cases h
  | _ => trivial

end Command

/-- The number of characters that commands print. -/
def textWidth : List Command → Nat
  | [] => 0
  | c :: commands => c.width + textWidth commands

@[simp] theorem textWidth_nil : textWidth [] = 0 := rfl

@[simp] theorem textWidth_cons (c : Command) (commands : List Command) :
    textWidth (c :: commands) = c.width + textWidth commands := rfl

@[simp] theorem textWidth_append (commands more : List Command) :
    textWidth (commands ++ more) = textWidth commands + textWidth more := by
  induction commands with
  | nil => exact (Nat.zero_add _).symm
  | cons c rest ih => rw [List.cons_append, textWidth, textWidth, ih, Nat.add_assoc]

namespace Screen

variable {s t : Screen} {cursor p : Position} {commands more : List Command}

/-! ## Text -/

theorem mem_span {start : Position} {length : Nat} :
    p ∈ span start length ↔
      p.row = start.row ∧ start.column ≤ p.column ∧ p.column < start.column + length := by
  rw [span, List.mem_map]
  constructor
  · rintro ⟨i, hi, rfl⟩
    exact ⟨rfl, Nat.le_add_right _ _, Nat.add_lt_add_left (List.mem_range.mp hi) _⟩
  · rintro ⟨hrow, hleft, hright⟩
    refine ⟨p.column - start.column, List.mem_range.mpr (by omega), Position.ext ?_ hrow.symm⟩
    exact Nat.add_sub_cancel' hleft

theorem span_add (start : Position) (n m : Nat) :
    span start (n + m) = span start n ++ span ⟨start.column + n, start.row⟩ m := by
  simp only [span, List.range_add, List.map_append, List.map_map, Function.comp_def, Nat.add_assoc]

/-- Text stands in one row, from the cursor on. -/
theorem printed_of_isText (h : ∀ c ∈ commands, c.isText = true) :
    printed cursor commands = span cursor (textWidth commands) := by
  induction commands generalizing cursor with
  | nil => rfl
  | cons c rest ih =>
    have hc := h c List.mem_cons_self
    have hrest (cursor : Position) : printed cursor rest = span cursor (textWidth rest) :=
      ih fun c' hc' => h c' (List.mem_cons_of_mem c hc')
    rw [textWidth_cons, span_add, ← hrest]
    cases c with
    | moveTo | clearScreen | clearLine => cases hc
    | print text | styled style text => rfl
    | _ => rfl

/-! ## Moves -/

/-- If there are commands, they begin with a move of the cursor. -/
def MovesFirst : List Command → Prop
  | [] => True
  | c :: _ => ∃ column row, c = .moveTo column row

theorem movesFirst_moveTo (column row : Nat) (rest : List Command) :
    MovesFirst (.moveTo column row :: rest) :=
  ⟨column, row, rfl⟩

theorem MovesFirst.append (h : MovesFirst commands) (hmore : MovesFirst more) :
    MovesFirst (commands ++ more) := by
  cases commands with
  | nil => exact hmore
  | cons c rest => exact h

theorem movesFirst_flatMap {α : Type} {draw : α → List Command} {l : List α}
    (h : ∀ a ∈ l, MovesFirst (draw a)) : MovesFirst (l.flatMap draw) := by
  induction l with
  | nil => trivial
  | cons a rest ih =>
    rw [List.flatMap_cons]
    exact (h a List.mem_cons_self).append (ih fun b hb => h b (List.mem_cons_of_mem a hb))

theorem MovesFirst.printed_congr (h : MovesFirst commands) (cursor cursor' : Position) :
    printed cursor commands = printed cursor' commands := by
  cases commands with
  | nil => rfl
  | cons c rest =>
    obtain ⟨column, row, rfl⟩ := h
    rfl

/-- Where the cursor was does not matter to commands that move it first. -/
theorem MovesFirst.cell_run_congr (h : MovesFirst commands) (hsize : s.size = t.size)
    (hlook : s.look = t.look) (hcell : s.cell p = t.cell p) :
    (s.run commands).cell p = (t.run commands).cell p := by
  cases commands with
  | nil => exact hcell
  | cons c rest =>
    obtain ⟨column, row, rfl⟩ := h
    exact cell_run_moveTo_congr hsize hlook hcell column row rest

theorem printed_append (cursor : Position) (commands : List Command) (hmore : MovesFirst more) :
    printed cursor (commands ++ more) = printed cursor commands ++ printed cursor more := by
  induction commands generalizing cursor with
  | nil => rfl
  | cons c rest ih =>
    cases c with
    | moveTo column row =>
      rw [hmore.printed_congr cursor ⟨column, row⟩]
      exact ih _
    | print text | styled style text =>
      rw [hmore.printed_congr cursor ⟨cursor.column + text.length, cursor.row⟩]
      exact (congrArg (span cursor text.length ++ ·) (ih _)).trans (List.append_assoc ..).symm
    | _ => exact ih cursor

theorem printed_flatMap {α : Type} {draw : α → List Command} {l : List α}
    (h : ∀ a ∈ l, MovesFirst (draw a)) :
    printed cursor (l.flatMap draw) = l.flatMap fun a => printed cursor (draw a) := by
  induction l with
  | nil => rfl
  | cons a rest ih =>
    have hrest : ∀ b ∈ rest, MovesFirst (draw b) := fun b hb => h b (List.mem_cons_of_mem a hb)
    rw [List.flatMap_cons, List.flatMap_cons, printed_append _ _ (movesFirst_flatMap hrest),
      ih hrest]

/-! ## Cells -/

/-- The positions of a command, and those of the commands after it. -/
theorem printed_cons (s : Screen) (c : Command) (rest : List Command) :
    printed s.cursor (c :: rest) = span s.cursor c.width ++ printed (s.perform c).cursor rest := by
  cases c with
  | print text =>
    show _ = _ ++ printed (s.print text.toList).cursor rest
    rw [cursor_print]
    rfl
  | styled style text =>
    show _ = _ ++ printed (print { s with look := s.look.before style } text.toList).cursor rest
    rw [cursor_print]
    rfl
  | _ => rfl

theorem cell_print_of_not_mem {text : List Char}
    (hp : p ∈ span s.cursor text.length → s.size.contains p = false) :
    (s.print text).cell p = s.cell p := by
  rw [cell_print]
  split
  next h =>
    obtain ⟨hrow, hleft, hin⟩ := h
    have hbeyond : text.length ≤ p.column - s.cursor.column := by
      refine Nat.le_of_not_lt fun hlt => ?_
      have hmem := mem_span.mpr ⟨hrow, hleft, (Nat.sub_lt_iff_lt_add' hleft).mp hlt⟩
      rw [hp hmem] at hin
      cases hin
    rw [List.getElem?_eq_none hbeyond]
  next => rfl

theorem cell_perform_of_not_mem {c : Command} (hc : c.clears = false)
    (hp : p ∈ span s.cursor c.width → s.size.contains p = false) :
    (s.perform c).cell p = s.cell p := by
  cases c with
  | clearScreen | clearLine => cases hc
  | print text => exact cell_print_of_not_mem hp
  | styled style text =>
    exact cell_print_of_not_mem (s := { s with look := s.look.before style }) hp
  | _ => rfl

/-- Commands that clear nothing leave a position alone if they do not print to it, or if it is not
on the screen. -/
theorem cell_run_of_not_mem_printed (hclears : ∀ c ∈ commands, c.clears = false)
    (hp : p ∈ printed s.cursor commands → s.size.contains p = false) :
    (s.run commands).cell p = s.cell p := by
  induction commands generalizing s with
  | nil => rfl
  | cons c rest ih =>
    rw [printed_cons] at hp
    have hrest : (s.perform c).cell p = s.cell p :=
      cell_perform_of_not_mem (hclears c List.mem_cons_self) fun hmem =>
        hp (List.mem_append_left _ hmem)
    refine (ih (fun c' hc' => hclears c' (List.mem_cons_of_mem c hc')) fun hmem => ?_).trans hrest
    rw [size_perform]
    exact hp (List.mem_append_right _ hmem)

/-- The screens differ in their cells only. -/
structure InStep (s t : Screen) : Prop where
  size_eq : s.size = t.size
  cursor_eq : s.cursor = t.cursor
  look_eq : s.look = t.look

theorem InStep.perform (h : s.InStep t) (c : Command) : (s.perform c).InStep (t.perform c) where
  size_eq := by rw [size_perform, size_perform, h.size_eq]
  cursor_eq := by
    cases c with
    | moveTo => rfl
    | print text =>
      show (s.print text.toList).cursor = (t.print text.toList).cursor
      rw [cursor_print, cursor_print, h.cursor_eq]
    | styled style text =>
      show (print { s with look := s.look.before style } text.toList).cursor =
        (print { t with look := t.look.before style } text.toList).cursor
      rw [cursor_print, cursor_print, h.cursor_eq]
    | _ => exact h.cursor_eq
  look_eq := by
    cases c with
    | print text => exact (look_print _ _).trans (h.look_eq.trans (look_print _ _).symm)
    | styled style text =>
      show (print { s with look := s.look.before style } text.toList).look.after style =
        (print { t with look := t.look.before style } text.toList).look.after style
      rw [look_print, look_print, h.look_eq]
    | set a => exact congrArg (Look.set · a) h.look_eq
    | reset => rfl
    | _ => exact h.look_eq

/-- What stands at a position of printed text does not depend on what stood there. -/
theorem InStep.cell_print (h : s.InStep t) {text : List Char}
    (hp : p ∈ span s.cursor text.length) (hin : s.size.contains p = true) :
    (s.print text).cell p = (t.print text).cell p := by
  obtain ⟨hrow, hleft, hright⟩ := mem_span.mp hp
  have hlt : p.column - s.cursor.column < text.length :=
    (Nat.sub_lt_iff_lt_add' hleft).mpr hright
  rw [Screen.cell_print, Screen.cell_print, ← h.size_eq, ← h.cursor_eq, ← h.look_eq,
    if_pos ⟨hrow, hleft, hin⟩, if_pos ⟨hrow, hleft, hin⟩, List.getElem?_eq_getElem hlt]

theorem InStep.cell_perform (h : s.InStep t) {c : Command} (hp : p ∈ span s.cursor c.width)
    (hin : s.size.contains p = true) : (s.perform c).cell p = (t.perform c).cell p := by
  cases c with
  | print text => exact h.cell_print hp hin
  | styled style text =>
    have hbefore : InStep { s with look := s.look.before style }
        { t with look := t.look.before style } :=
      { h with look_eq := congrArg (Look.before · style) h.look_eq }
    exact hbefore.cell_print hp hin
  | _ => cases hp

/-- What stands at a position that commands print to does not depend on what stood there. -/
theorem InStep.cell_run (h : s.InStep t) (hp : p ∈ printed s.cursor commands)
    (hin : s.size.contains p = true) : (s.run commands).cell p = (t.run commands).cell p := by
  induction commands generalizing s t with
  | nil => cases hp
  | cons c rest ih =>
    rw [printed_cons] at hp
    have hstep := h.perform c
    rcases List.mem_append.mp hp with hhere | hlater
    · have hcell := h.cell_perform hhere hin
      have hagree : (s.perform c).AgreeAt (t.perform c) p :=
        ⟨hstep.size_eq, hstep.cursor_eq, hstep.look_eq, hcell⟩
      exact (hagree.run rest).cell_eq
    · rw [← size_perform s c] at hin
      exact ih hstep hlater hin

/-! ## Drawing -/

/-- Commands that only print: they move the cursor first, leave plain text plain and clear
nothing. -/
structure Drawing (commands : List Command) : Prop where
  movesFirst : MovesFirst commands
  stayPlain : StayPlain commands
  clears_eq : ∀ c ∈ commands, c.clears = false

namespace Drawing

theorem append (h : Drawing commands) (hmore : Drawing more) : Drawing (commands ++ more) where
  movesFirst := h.movesFirst.append hmore.movesFirst
  stayPlain := h.stayPlain.append hmore.stayPlain
  clears_eq c hc := (List.mem_append.mp hc).elim (h.clears_eq c) (hmore.clears_eq c)

/-- Drawing leaves a position alone that it does not print to. -/
theorem cell_run (h : Drawing commands) (cursor : Position)
    (hp : p ∈ printed cursor commands → s.size.contains p = false) :
    (s.run commands).cell p = s.cell p := by
  rw [h.movesFirst.printed_congr cursor s.cursor] at hp
  exact cell_run_of_not_mem_printed h.clears_eq hp

/-- What stands at a position that is printed to does not depend on what stood there. -/
theorem cell_run_congr (h : Drawing commands) (hsize : s.size = t.size) (hs : s.look = {})
    (ht : t.look = {}) (hp : p ∈ printed cursor commands) (hin : s.size.contains p = true) :
    (s.run commands).cell p = (t.run commands).cell p := by
  obtain ⟨hmoves, -, -⟩ := h
  cases commands with
  | nil => cases hp
  | cons c rest =>
    obtain ⟨column, row, rfl⟩ := hmoves
    have hmoved : (s.perform (.moveTo column row)).InStep (t.perform (.moveTo column row)) :=
      { size_eq := hsize, cursor_eq := rfl, look_eq := hs.trans ht.symm }
    show ((s.perform (.moveTo column row)).run rest).cell p =
      ((t.perform (.moveTo column row)).run rest).cell p
    exact hmoved.cell_run hp hin

/-- What was drawn before does not show at a position that is printed to. -/
theorem cell_run_append (h : Drawing commands) {before : List Command} (hbefore : StayPlain before)
    (hsize : s.size = t.size) (hs : s.look = {}) (ht : t.look = {})
    (hp : p ∈ printed cursor commands) (hin : s.size.contains p = true) :
    (s.run (before ++ commands)).cell p = (t.run commands).cell p := by
  rw [run_append]
  rw [← size_run s before] at hsize hin
  exact h.cell_run_congr hsize (hbefore s hs) ht hp hin

/-- At a position that is not printed to the drawing may be left out. -/
theorem cell_run_left_out (h : Drawing commands) (hmore : MovesFirst more) (hs : s.look = {})
    (hp : p ∈ printed cursor commands → s.size.contains p = false) :
    (s.run (commands ++ more)).cell p = (s.run more).cell p := by
  rw [run_append]
  exact hmore.cell_run_congr (size_run s commands) ((h.stayPlain s hs).trans hs.symm)
    (h.cell_run cursor hp)

/-- So may two parts, one below and one above a part that stays. -/
theorem cell_run_left_out_twice {middle last : List Command} (h : Drawing commands)
    (hmiddle : Drawing middle) (hmore : Drawing more) (hlast : MovesFirst last) (hs : s.look = {})
    (hp : p ∈ printed cursor commands → s.size.contains p = false)
    (hp' : p ∈ printed cursor more → s.size.contains p = false) :
    (s.run (commands ++ (middle ++ (more ++ last)))).cell p = (s.run (middle ++ last)).cell p := by
  have hrest := hmiddle.movesFirst.append (hmore.movesFirst.append hlast)
  rw [h.cell_run_left_out hrest hs hp, run_append s middle, run_append s middle]
  rw [← size_run s middle] at hp'
  exact hmore.cell_run_left_out hlast (hmiddle.stayPlain s hs) hp'

end Drawing

/-- Two parts of a picture are drawn again, the first below a part that stays, and both below what
is drawn last. If each covers what it drew before and nothing that stays stands on them, the
picture is the one that is drawn anew. -/
theorem cell_run_redrawn {first first' middle second second' last : List Command}
    (hfirst : Drawing first) (hfirst' : Drawing first') (hmiddle : Drawing middle)
    (hsecond : Drawing second) (hsecond' : Drawing second') (hlast : MovesFirst last)
    (hplain : StayPlain last) (hsize : s.size = t.size) (hs : s.look = {}) (ht : t.look = {})
    (hcell : s.cell p = t.cell p) (hcovers : p ∈ printed cursor first → p ∈ printed cursor first')
    (hcovers' : p ∈ printed cursor second → p ∈ printed cursor second')
    (hbelow : p ∈ printed cursor first' → p ∉ printed cursor middle)
    (hfree : p ∈ printed cursor first' ∨ p ∈ printed cursor second' →
      ∀ u : Screen, (u.run last).cell p = u.cell p) :
    (s.run (first ++ (middle ++ (second ++ last)) ++ (first' ++ second'))).cell p =
      (t.run (first' ++ (middle ++ (second' ++ last)))).cell p := by
  have hold : StayPlain (first ++ (middle ++ (second ++ last))) :=
    hfirst.stayPlain.append (hmiddle.stayPlain.append (hsecond.stayPlain.append hplain))
  by_cases hshown' : p ∈ printed cursor second' ∧ s.size.contains p = true
  · -- the second part shows here, in the old picture as in the new one
    obtain ⟨hp, hin⟩ := hshown'
    have hin' : t.size.contains p = true := hsize ▸ hin
    rw [← List.append_assoc, hsecond'.cell_run_append (hold.append hfirst'.stayPlain) hsize hs ht
      hp hin, ← List.append_assoc, ← List.append_assoc, run_append, hfree (.inr hp)]
    exact (hsecond'.cell_run_append (hfirst'.stayPlain.append hmiddle.stayPlain) rfl ht ht hp
      hin').symm
  have hhidden' (hp : p ∈ printed cursor second') : s.size.contains p = false :=
    Bool.eq_false_iff.mpr fun hin => hshown' ⟨hp, hin⟩
  rw [← List.append_assoc, run_append,
    hsecond'.cell_run cursor (by rw [size_run]; exact hhidden')]
  by_cases hshown : p ∈ printed cursor first' ∧ s.size.contains p = true
  · -- the first part shows here
    obtain ⟨hp, hin⟩ := hshown
    rw [hfirst'.cell_run_append hold hsize hs ht hp hin, run_append, run_append, run_append,
      hfree (.inl hp), hsecond'.cell_run cursor, hmiddle.cell_run cursor]
    · exact fun hmem => absurd hmem (hbelow hp)
    · simpa only [size_run, ← hsize] using hhidden'
  · -- neither part shows here, nor did it before
    have hhidden (hp : p ∈ printed cursor first') : s.size.contains p = false :=
      Bool.eq_false_iff.mpr fun hin => hshown ⟨hp, hin⟩
    rw [run_append, hfirst'.cell_run cursor (by rw [size_run]; exact hhidden),
      hfirst.cell_run_left_out_twice hmiddle hsecond hlast hs (hhidden ∘ hcovers)
        (hhidden' ∘ hcovers')]
    rw [hsize] at hhidden hhidden'
    rw [hfirst'.cell_run_left_out_twice hmiddle hsecond' hlast ht hhidden hhidden']
    exact (hmiddle.movesFirst.append hlast).cell_run_congr hsize (hs.trans ht.symm) hcell

/-! ## Areas -/

end Screen

/-- A rectangle of positions. -/
structure Area where
  origin : Position
  width : Nat
  height : Nat

/-- The positions of a rectangle. -/
def Area.Contains (a : Area) (p : Position) : Prop :=
  (a.origin.row ≤ p.row ∧ p.row < a.origin.row + a.height) ∧
    a.origin.column ≤ p.column ∧ p.column < a.origin.column + a.width

namespace Screen

variable {s t : Screen} {cursor p : Position} {commands more : List Command} {a : Area}

/-- Drawing that keeps to a rectangle. -/
structure DrawsIn (a : Area) (commands : List Command) : Prop extends Drawing commands where
  contains : ∀ cursor, ∀ p ∈ printed cursor commands, a.Contains p

theorem drawsIn_nil (a : Area) : DrawsIn a [] where
  movesFirst := trivial
  stayPlain _ hs := hs
  clears_eq := nofun
  contains := nofun

/-- A line of text is drawn in a rectangle that has room for it. -/
theorem drawsIn_line {column row : Nat} {text : List Command}
    (htext : ∀ c ∈ text, c.isText = true) (hplain : StayPlain text)
    (hrow : a.origin.row ≤ row ∧ row < a.origin.row + a.height) (hleft : a.origin.column ≤ column)
    (hright : column + textWidth text ≤ a.origin.column + a.width) :
    DrawsIn a (.moveTo column row :: text) where
  movesFirst := movesFirst_moveTo column row text
  stayPlain s hs := hplain _ hs
  clears_eq c hc := by
    rcases List.mem_cons.mp hc with rfl | hc
    · rfl
    · exact Command.clears_of_isText (htext c hc)
  contains cursor p hp := by
    change p ∈ printed ⟨column, row⟩ text at hp
    rw [printed_of_isText htext, mem_span] at hp
    obtain ⟨hsame, hfrom, hto⟩ := hp
    rw [Area.Contains, hsame]
    exact ⟨hrow, Nat.le_trans hleft hfrom, Nat.lt_of_lt_of_le hto hright⟩

section

variable {column row : Nat} {text : String}
  (hrow : a.origin.row ≤ row ∧ row < a.origin.row + a.height) (hleft : a.origin.column ≤ column)
  (hright : column + text.length ≤ a.origin.column + a.width)

include hrow hleft hright

theorem drawsIn_print : DrawsIn a [.moveTo column row, .print text] :=
  drawsIn_line (by simp [Command.isText]) (stayPlain_of_isPlain (by simp [Command.isPlain])) hrow
    hleft (by simpa [Command.width] using hright)

theorem drawsIn_styled (style : Style) : DrawsIn a [.moveTo column row, .styled style text] :=
  drawsIn_line (by simp [Command.isText]) (stayPlain_of_isPlain (by simp [Command.isPlain])) hrow
    hleft (by simpa [Command.width] using hright)

/-- So is a line of text with an attribute that is dropped after it. -/
theorem drawsIn_set (look : Attribute) :
    DrawsIn a [.moveTo column row, .set look, .print text, .reset] :=
  drawsIn_line (by simp [Command.isText]) (fun _ _ => rfl) hrow hleft
    (by simpa [Command.width] using hright)

end

theorem DrawsIn.append (h : DrawsIn a commands) (hmore : DrawsIn a more) :
    DrawsIn a (commands ++ more) where
  toDrawing := h.toDrawing.append hmore.toDrawing
  contains cursor p hp := by
    rw [printed_append _ _ hmore.movesFirst] at hp
    exact (List.mem_append.mp hp).elim (h.contains cursor p) (hmore.contains cursor p)

theorem drawsIn_flatMap {α : Type} {draw : α → List Command} {l : List α}
    (h : ∀ b ∈ l, DrawsIn a (draw b)) : DrawsIn a (l.flatMap draw) := by
  induction l with
  | nil => exact drawsIn_nil a
  | cons b rest ih =>
    rw [List.flatMap_cons]
    exact (h b List.mem_cons_self).append (ih fun c hc => h c (List.mem_cons_of_mem b hc))

/-- Drawing leaves everything outside its rectangle alone. -/
theorem DrawsIn.cell_run_of_not_contains (h : DrawsIn a commands) (hp : ¬ a.Contains p) :
    (s.run commands).cell p = s.cell p :=
  h.cell_run ⟨0, 0⟩ fun hmem => absurd (h.contains _ p hmem) hp

end Screen

end CharLcd.Terminal
