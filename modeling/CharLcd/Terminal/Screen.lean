import CharLcd.Terminal.Command
import CharLcd.Terminal.Position

/-!
# The screen of a terminal

What commands leave on a screen: a character with a look at every position.
Printing fills the positions from the cursor to the right and never wraps, and
what is printed beside the screen is lost.

- `Cell`: a character with its look.
- `Screen`: the cells, the cursor, and the look of what is printed next.
- `Screen.run`: what commands do; `Screen.print` is the printing of characters
  (`cell_print`).
- `Screen.printed`: the positions that commands print to.
-/

namespace CharLcd.Terminal

/-- How a character looks. -/
structure Look where
  background : Option Color := none
  foreground : Option Color := none
  bold : Bool := false
  dim : Bool := false
  reverse : Bool := false
  deriving DecidableEq, Repr

/-- What stands at a position. -/
structure Cell where
  char : Char := ' '
  look : Look := {}
  deriving DecidableEq, Repr

namespace Look

/-- Switch an attribute on. -/
def set (l : Look) : Attribute → Look
  | .bold => { l with bold := true }
  | .dim => { l with dim := true }
  | .reverse => { l with reverse := true }

/-- The look before styled text is printed. -/
def before (l : Look) (s : Style) : Look :=
  s.attributes.foldl set { l with
    background := s.background.or l.background
    foreground := s.foreground.or l.foreground }

/-- The look after styled text. Attributes take the whole look with them, and
colours go on their own. -/
def after (l : Look) (s : Style) : Look :=
  if s.attributes.isEmpty then
    { l with
      background := if s.background.isSome then none else l.background
      foreground := if s.foreground.isSome then none else l.foreground }
  else {}

end Look

/-- The state of a screen. -/
structure Screen where
  size : Size
  cell : Position → Cell
  cursor : Position := ⟨0, 0⟩
  look : Look := {}

namespace Screen

/-- A screen on which nothing stands. -/
def blank (size : Size) : Screen := { size, cell := fun _ => {} }

/-- Print characters. -/
def print (s : Screen) : List Char → Screen
  | [] => s
  | c :: rest =>
    print { s with
      cell := fun p => if p = s.cursor ∧ s.size.contains p then ⟨c, s.look⟩ else s.cell p
      cursor := ⟨s.cursor.column + 1, s.cursor.row⟩ } rest

/-- What a command does. -/
def perform (s : Screen) : Command → Screen
  | .moveTo column row => { s with cursor := ⟨column, row⟩ }
  | .print text => s.print text.toList
  | .set a => { s with look := s.look.set a }
  | .reset => { s with look := {} }
  | .styled style text =>
    let s := { s with look := s.look.before style }.print text.toList
    { s with look := s.look.after style }
  | .clearScreen => { s with cell := fun _ => {} }
  | .clearLine => { s with cell := fun p => if p.row = s.cursor.row then {} else s.cell p }
  | .hideCursor | .showCursor | .enterScreen | .leaveScreen | .captureMouse | .releaseMouse => s

/-- What commands do one after the other. -/
def run (s : Screen) (commands : List Command) : Screen :=
  commands.foldl perform s

@[simp] theorem run_nil (s : Screen) : s.run [] = s := rfl

@[simp] theorem run_cons (s : Screen) (c : Command) (commands : List Command) :
    s.run (c :: commands) = (s.perform c).run commands := rfl

@[simp] theorem run_append (s : Screen) (commands more : List Command) :
    s.run (commands ++ more) = (s.run commands).run more :=
  List.foldl_append

/-! ## Printing -/

@[simp] theorem size_print (s : Screen) (text : List Char) : (s.print text).size = s.size := by
  induction text generalizing s with
  | nil => rfl
  | cons c rest ih => rw [print, ih]

@[simp] theorem look_print (s : Screen) (text : List Char) : (s.print text).look = s.look := by
  induction text generalizing s with
  | nil => rfl
  | cons c rest ih => rw [print, ih]

@[simp] theorem cursor_print (s : Screen) (text : List Char) :
    (s.print text).cursor = ⟨s.cursor.column + text.length, s.cursor.row⟩ := by
  induction text generalizing s with
  | nil => rfl
  | cons c rest ih => rw [print, ih, List.length_cons, Nat.add_assoc, Nat.add_comm 1]

/-- A text stands from the cursor on, as far as it is on the screen, and all other
cells are left alone. -/
theorem cell_print (s : Screen) (text : List Char) (p : Position) :
    (s.print text).cell p =
      if p.row = s.cursor.row ∧ s.cursor.column ≤ p.column ∧ s.size.contains p then
        match text[p.column - s.cursor.column]? with
        | some c => ⟨c, s.look⟩
        | none => s.cell p
      else s.cell p := by
  induction text generalizing s with
  | nil => simp [print]
  | cons c rest ih =>
    rw [print, ih]
    by_cases here : p = s.cursor
    · subst here
      rw [if_neg fun h => Nat.not_succ_le_self _ h.2.1]
      simp
    · by_cases right : p.row = s.cursor.row ∧ s.cursor.column + 1 ≤ p.column
      · have next : p.column - s.cursor.column = p.column - (s.cursor.column + 1) + 1 := by omega
        have le : s.cursor.column ≤ p.column := by omega
        simp [here, right, le, next]
      · have left : ¬ (p.row = s.cursor.row ∧ s.cursor.column ≤ p.column) := by
          rintro ⟨row, le⟩
          have lt : ¬ s.cursor.column + 1 ≤ p.column := fun lt => right ⟨row, lt⟩
          exact here (Position.ext (by omega) row)
        rw [if_neg fun h => right ⟨h.1, h.2.1⟩, if_neg fun h => left ⟨h.1, h.2.1⟩]
        simp [here]

/-! ## Where commands print -/

/-- The positions of a text of some length. -/
def span (start : Position) (length : Nat) : List Position :=
  (List.range length).map fun i => ⟨start.column + i, start.row⟩

/-- The positions that commands print to, from a cursor on. -/
def printed (cursor : Position) : List Command → List Position
  | [] => []
  | .moveTo column row :: rest => printed ⟨column, row⟩ rest
  | .print text :: rest =>
    span cursor text.length ++ printed ⟨cursor.column + text.length, cursor.row⟩ rest
  | .styled _ text :: rest =>
    span cursor text.length ++ printed ⟨cursor.column + text.length, cursor.row⟩ rest
  | _ :: rest => printed cursor rest

end Screen

end CharLcd.Terminal
