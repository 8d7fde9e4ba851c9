import CharLcd.Terminal.Screen

/-!
# What commands leave alone

- `Screen.AgreeAt`: two screens that agree at a position still agree there after the same commands
  (`AgreeAt.run`), also if their cursors differ and the commands begin with a move of the cursor
  (`cell_run_moveTo_congr`).
- `Command.KeepsTo`, `Screen.cell_run_of_keepsTo`: commands that keep to some rows leave all others
  alone.
- `Command.isPlain`, `Screen.StayPlain`: text that brings its own style leaves plain text plain.
- `Screen.cell_run_lines`: lines of styled text, one below the other.
-/

namespace CharLcd.Terminal

namespace Look

/-- After styled text in between, plain text is plain again. -/
theorem after_before (style : Style) : (({} : Look).before style).after style = {} := by
  obtain ⟨background, foreground, dim, reverse⟩ := style
  cases background <;> cases foreground <;> cases dim <;> cases reverse <;> rfl

end Look

namespace Command

/-- The command moves the cursor to some rows only, and changes no other row than that of the
cursor. -/
def KeepsTo (rows : Nat → Prop) : Command → Prop
  | moveTo _ row => rows row
  | clearScreen => False
  | _ => True

/-- The command gives no look to what is printed after it. -/
def isPlain : Command → Bool
  | set _ => false
  | _ => true

end Command

namespace Screen

variable {s t : Screen} {p : Position}

/-! ## Size and look -/

@[simp] theorem size_perform (s : Screen) (c : Command) : (s.perform c).size = s.size := by
  cases c with
  | print text => exact size_print _ _
  | styled style text => exact size_print _ _
  | _ => rfl

@[simp] theorem size_run (s : Screen) (commands : List Command) :
    (s.run commands).size = s.size := by
  induction commands generalizing s with
  | nil => rfl
  | cons c rest ih => rw [run_cons, ih, size_perform]

theorem look_perform_of_isPlain {c : Command} (hs : s.look = {}) (hc : c.isPlain = true) :
    (s.perform c).look = {} := by
  cases c with
  | set a => cases hc
  | print text => exact (look_print _ _).trans hs
  | styled style text =>
    show Look.after (print { s with look := s.look.before style } text.toList).look style = {}
    rw [look_print, hs]
    exact Look.after_before style
  | reset => rfl
  | _ => exact hs

/-- Plain text is still plain after the commands. -/
def StayPlain (commands : List Command) : Prop :=
  ∀ s : Screen, s.look = {} → (s.run commands).look = {}

theorem stayPlain_of_isPlain {commands : List Command}
    (h : ∀ c ∈ commands, c.isPlain = true) : StayPlain commands := by
  intro s hs
  induction commands generalizing s with
  | nil => exact hs
  | cons c rest ih =>
    have hc := look_perform_of_isPlain hs (h c List.mem_cons_self)
    exact ih (fun c' hc' => h c' (List.mem_cons_of_mem c hc')) _ hc

theorem StayPlain.append {commands more : List Command} (h : StayPlain commands)
    (hmore : StayPlain more) : StayPlain (commands ++ more) := by
  intro s hs
  rw [run_append]
  exact hmore _ (h s hs)

theorem stayPlain_flatMap {α : Type} {draw : α → List Command} {l : List α}
    (h : ∀ a ∈ l, StayPlain (draw a)) : StayPlain (l.flatMap draw) := by
  induction l with
  | nil => exact fun _ hs => hs
  | cons a rest ih =>
    rw [List.flatMap_cons]
    exact (h a List.mem_cons_self).append (ih fun b hb => h b (List.mem_cons_of_mem a hb))

/-! ## Agreement -/

/-- The screens agree at a position and in all that commands depend on. -/
structure AgreeAt (s t : Screen) (p : Position) : Prop where
  size_eq : s.size = t.size
  cursor_eq : s.cursor = t.cursor
  look_eq : s.look = t.look
  cell_eq : s.cell p = t.cell p

theorem AgreeAt.print (h : s.AgreeAt t p) (text : List Char) :
    (s.print text).AgreeAt (t.print text) p where
  size_eq := by rw [size_print, size_print, h.size_eq]
  cursor_eq := by rw [cursor_print, cursor_print, h.cursor_eq]
  look_eq := by rw [look_print, look_print, h.look_eq]
  cell_eq := by rw [cell_print, cell_print, h.size_eq, h.cursor_eq, h.look_eq, h.cell_eq]

theorem AgreeAt.perform (h : s.AgreeAt t p) (c : Command) :
    (s.perform c).AgreeAt (t.perform c) p := by
  cases c with
  | moveTo column row => exact { h with cursor_eq := rfl }
  | print text => exact h.print text.toList
  | set a => exact { h with look_eq := congrArg (Look.set · a) h.look_eq }
  | reset => exact { h with look_eq := rfl }
  | styled style text =>
    have hbefore : AgreeAt { s with look := s.look.before style }
        { t with look := t.look.before style } p :=
      { h with look_eq := congrArg (Look.before · style) h.look_eq }
    have hprinted := hbefore.print text.toList
    exact { hprinted with look_eq := congrArg (Look.after · style) hprinted.look_eq }
  | clearScreen => exact { h with cell_eq := rfl }
  | clearLine =>
    refine { h with cell_eq := ?_ }
    show (if p.row = s.cursor.row then {} else s.cell p) =
      if p.row = t.cursor.row then {} else t.cell p
    rw [h.cursor_eq, h.cell_eq]
  | _ => exact h

/-- Screens that agree at a position still do so after the same commands. -/
theorem AgreeAt.run (h : s.AgreeAt t p) (commands : List Command) :
    (s.run commands).AgreeAt (t.run commands) p := by
  induction commands generalizing s t with
  | nil => exact h
  | cons c rest ih => exact ih (h.perform c)

/-- Where the cursor was does not matter to commands that move it first. -/
theorem cell_run_moveTo_congr (hsize : s.size = t.size) (hlook : s.look = t.look)
    (hcell : s.cell p = t.cell p) (column row : Nat) (rest : List Command) :
    (s.run (.moveTo column row :: rest)).cell p = (t.run (.moveTo column row :: rest)).cell p := by
  have h : (s.perform (.moveTo column row)).AgreeAt (t.perform (.moveTo column row)) p :=
    { size_eq := hsize, cursor_eq := rfl, look_eq := hlook, cell_eq := hcell }
  exact (h.run rest).cell_eq

/-! ## Rows -/

section

variable {rows : Nat → Prop}

theorem cell_print_of_row_ne (hrow : p.row ≠ s.cursor.row) (text : List Char) :
    (s.print text).cell p = s.cell p := by
  rw [cell_print, if_neg fun h => hrow h.1]

/-- A command that keeps to some rows leaves the cursor there and all other rows alone. -/
theorem perform_of_keepsTo {c : Command} (hc : c.KeepsTo rows) (hcursor : rows s.cursor.row)
    (hp : ¬ rows p.row) : rows (s.perform c).cursor.row ∧ (s.perform c).cell p = s.cell p := by
  have hrow : p.row ≠ s.cursor.row := fun heq => hp (heq ▸ hcursor)
  cases c with
  | moveTo column row => exact ⟨hc, rfl⟩
  | print text =>
    refine ⟨?_, cell_print_of_row_ne hrow text.toList⟩
    show rows (s.print text.toList).cursor.row
    rw [cursor_print]
    exact hcursor
  | styled style text =>
    let before : Screen := { s with look := s.look.before style }
    refine ⟨?_, cell_print_of_row_ne (s := before) hrow text.toList⟩
    show rows (before.print text.toList).cursor.row
    rw [cursor_print]
    exact hcursor
  | clearScreen => exact hc.elim
  | clearLine => exact ⟨hcursor, if_neg hrow⟩
  | _ => exact ⟨hcursor, rfl⟩

theorem cell_run_of_keepsTo {commands : List Command}
    (hkeeps : ∀ c ∈ commands, c.KeepsTo rows) (hcursor : rows s.cursor.row) (hp : ¬ rows p.row) :
    (s.run commands).cell p = s.cell p := by
  induction commands generalizing s with
  | nil => rfl
  | cons c rest ih =>
    obtain ⟨hrow, hcell⟩ := perform_of_keepsTo (hkeeps c List.mem_cons_self) hcursor hp
    have hrest : ∀ c' ∈ rest, c'.KeepsTo rows := fun c' hc' =>
      hkeeps c' (List.mem_cons_of_mem c hc')
    exact (ih hrest hrow).trans hcell

/-- Where the cursor was does not matter to commands that move it first. -/
theorem cell_run_moveTo_of_keepsTo {column row : Nat} {rest : List Command}
    (hkeeps : ∀ c ∈ Command.moveTo column row :: rest, c.KeepsTo rows) (hp : ¬ rows p.row) :
    (s.run (.moveTo column row :: rest)).cell p = s.cell p :=
  cell_run_of_keepsTo (s := s.perform (.moveTo column row))
    (fun c hc => hkeeps c (List.mem_cons_of_mem _ hc)) (hkeeps _ List.mem_cons_self) hp

end

/-! ## Lines of text -/

/-- A line of styled text stands where the cursor is moved to. -/
theorem cell_run_line (s : Screen) (column row : Nat) (style : Style) (text : String)
    (p : Position) :
    (s.run [.moveTo column row, .styled style text]).cell p =
      if p.row = row ∧ column ≤ p.column ∧ s.size.contains p then
        match text.toList[p.column - column]? with
        | some c => ⟨c, s.look.before style⟩
        | none => s.cell p
      else s.cell p :=
  cell_print { s with cursor := ⟨column, row⟩, look := s.look.before style } text.toList p

/-- Lines of styled text stand one below the other. -/
theorem cell_run_lines (hs : s.look = {}) (origin : Position) (style : Style) (text : Nat → String)
    (n : Nat) (p : Position) :
    (s.run ((List.range n).flatMap fun i =>
        [.moveTo origin.column (origin.row + i), .styled style (text i)])).cell p =
      if (origin.row ≤ p.row ∧ p.row < origin.row + n) ∧ origin.column ≤ p.column ∧
          s.size.contains p then
        match (text (p.row - origin.row)).toList[p.column - origin.column]? with
        | some c => ⟨c, ({} : Look).before style⟩
        | none => s.cell p
      else s.cell p := by
  induction n with
  | zero =>
    rw [if_neg (by omega)]
    rfl
  | succ n ih =>
    rw [List.range_succ, List.flatMap_append, run_append, List.flatMap_singleton, cell_run_line]
    have hlook : (s.run ((List.range n).flatMap fun i =>
        [.moveTo origin.column (origin.row + i), .styled style (text i)])).look = {} := by
      refine stayPlain_flatMap (fun i _ => stayPlain_of_isPlain ?_) s hs
      simp [Command.isPlain]
    rw [hlook, size_run]
    by_cases hlast : p.row = origin.row + n
    · have hi : p.row - origin.row = n := by omega
      have habove : ¬ (origin.row ≤ p.row ∧ p.row < origin.row + n) := by omega
      have hlines : origin.row ≤ p.row ∧ p.row < origin.row + (n + 1) := by omega
      rw [if_neg fun h => habove h.1] at ih
      rw [hi, ih]
      simp only [iff_true_intro hlast, iff_true_intro hlines, true_and]
    · have hlines : origin.row ≤ p.row ∧ p.row < origin.row + (n + 1) ↔
          origin.row ≤ p.row ∧ p.row < origin.row + n := by omega
      rw [if_neg fun h => hlast h.1, ih]
      simp only [hlines]

end Screen

end CharLcd.Terminal
