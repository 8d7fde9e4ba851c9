import CharLcd.Proofs.Terminal.Printing

/-!
# The texts that commands print

- `Look.perform`: what a command makes of the look of the text after it.
- `texts`: the texts that commands print, each with its look; `joined` is all of them as one text.
- `Screen.cell_run_of_isText`: text that is printed in one row stands there, character by character,
  each with the look of its text.
-/

namespace CharLcd.Terminal

/-- The look after a command. -/
def Look.perform (l : Look) : Command → Look
  | .set a => l.set a
  | .reset => {}
  | .styled style _ => (l.before style).after style
  | _ => l

/-- The text that a command prints, with its look. -/
def Command.text? (l : Look) : Command → Option (Look × String)
  | .print text => some (l, text)
  | .styled style text => some (l.before style, text)
  | _ => none

/-- The texts that commands print, each with its look, after text of some look. -/
def texts (l : Look) : List Command → List (Look × String)
  | [] => []
  | c :: rest => (c.text? l).toList ++ texts (l.perform c) rest

/-- All that commands print. -/
def joined (commands : List Command) : String :=
  String.join ((texts {} commands).map Prod.snd)

/-- The characters of texts, each with the look of its text. -/
def cells (pieces : List (Look × String)) : List Cell :=
  pieces.flatMap fun piece => piece.2.toList.map fun c => ⟨c, piece.1⟩

/-! ## Texts -/

theorem texts_append (l : Look) (commands more : List Command) :
    texts l (commands ++ more) =
      texts l commands ++ texts (commands.foldl Look.perform l) more := by
  induction commands generalizing l with
  | nil => rfl
  | cons c rest ih => rw [List.cons_append, texts, ih, texts, List.append_assoc, List.foldl_cons]

/-- What is printed does not depend on the look before. -/
theorem map_snd_texts (l l' : Look) (commands : List Command) :
    (texts l commands).map Prod.snd = (texts l' commands).map Prod.snd := by
  induction commands generalizing l l' with
  | nil => rfl
  | cons c rest ih =>
    rw [texts, texts, List.map_append, List.map_append, ih (l.perform c) (l'.perform c)]
    cases c <;> rfl

theorem joined_append (commands more : List Command) :
    joined (commands ++ more) = joined commands ++ joined more := by
  rw [joined, texts_append, List.map_append, map_snd_texts _ {} more, String.join_append]
  rfl

theorem cells_append (pieces more : List (Look × String)) :
    cells (pieces ++ more) = cells pieces ++ cells more :=
  List.flatMap_append

theorem map_char_cells (pieces : List (Look × String)) :
    (cells pieces).map Cell.char = (String.join (pieces.map Prod.snd)).toList := by
  rw [String.toList_join]
  induction pieces with
  | nil => rfl
  | cons piece rest ih =>
    rw [cells, List.flatMap_cons, List.map_append, List.map_map, List.map_cons, List.flatMap_cons,
      ← ih]
    exact congrArg (· ++ _) (List.map_id _)

theorem length_cells_text? (l : Look) (c : Command) :
    (cells (c.text? l).toList).length = c.width := by
  cases c with
  | print text | styled _ text =>
    simp only [cells, Command.text?, Option.toList_some, List.flatMap_cons, List.flatMap_nil,
      List.append_nil, List.length_map, String.length_toList, Command.width]
  | _ => rfl

theorem length_cells_texts (l : Look) (commands : List Command) :
    (cells (texts l commands)).length = textWidth commands := by
  induction commands generalizing l with
  | nil => rfl
  | cons c rest ih =>
    rw [texts, cells_append, List.length_append, length_cells_text?, ih, textWidth_cons]

/-- As many characters are printed as the commands count. -/
theorem length_joined (commands : List Command) :
    (joined commands).length = textWidth commands := by
  rw [← length_cells_texts {} commands, joined, ← String.length_toList, ← map_char_cells,
    List.length_map]

/-! ## Text on a screen -/

namespace Screen

theorem look_perform (s : Screen) (c : Command) : (s.perform c).look = s.look.perform c := by
  cases c with
  | print text => exact look_print s text.toList
  | styled style text =>
    show (print { s with look := s.look.before style } text.toList).look.after style = _
    rw [look_print]
    rfl
  | _ => rfl

theorem cursor_perform_of_isText (s : Screen) {c : Command} (hc : c.isText = true) :
    (s.perform c).cursor = ⟨s.cursor.column + c.width, s.cursor.row⟩ := by
  cases c with
  | moveTo | clearScreen | clearLine => cases hc
  | print text =>
    rw [Command.width, ← String.length_toList]
    exact cursor_print s text.toList
  | styled style text =>
    rw [Command.width, ← String.length_toList]
    exact cursor_print { s with look := s.look.before style } text.toList
  | _ => rfl

theorem cell_perform_of_isText (s : Screen) {c : Command} (hc : c.isText = true) (p : Position) :
    (s.perform c).cell p =
      if p.row = s.cursor.row ∧ s.cursor.column ≤ p.column ∧ s.size.contains p then
        (cells (c.text? s.look).toList)[p.column - s.cursor.column]?.getD (s.cell p)
      else s.cell p := by
  have hprint (l : Look) (text : String) :
      (print { s with look := l } text.toList).cell p =
        if p.row = s.cursor.row ∧ s.cursor.column ≤ p.column ∧ s.size.contains p then
          (cells [(l, text)])[p.column - s.cursor.column]?.getD (s.cell p)
        else s.cell p := by
    rw [cell_print, cells, List.flatMap_cons, List.flatMap_nil, List.append_nil, List.getElem?_map]
    dsimp only
    cases text.toList[p.column - s.cursor.column]? <;> rfl
  cases c with
  | moveTo | clearScreen | clearLine => cases hc
  | print text => exact hprint s.look text
  | styled style text => exact hprint (s.look.before style) text
  | _ => exact (ite_self _).symm

/-- Text that is printed from the cursor on stands there, as far as it is on the screen. -/
theorem cell_run_of_isText {s : Screen} {commands : List Command}
    (h : ∀ c ∈ commands, c.isText = true) (p : Position) :
    (s.run commands).cell p =
      if p.row = s.cursor.row ∧ s.cursor.column ≤ p.column ∧ s.size.contains p then
        (cells (texts s.look commands))[p.column - s.cursor.column]?.getD (s.cell p)
      else s.cell p := by
  induction commands generalizing s with
  | nil => exact (ite_self _).symm
  | cons c rest ih =>
    have hc := h c List.mem_cons_self
    rw [run_cons, ih fun c' hc' => h c' (List.mem_cons_of_mem c hc'), size_perform, look_perform,
      cursor_perform_of_isText s hc, cell_perform_of_isText s hc, texts, cells_append]
    dsimp only
    have hlength := length_cells_text? s.look c
    by_cases hhere : p.row = s.cursor.row ∧ s.cursor.column ≤ p.column ∧ s.size.contains p
    · rw [if_pos hhere, if_pos hhere]
      obtain ⟨hrow, hleft, hin⟩ := hhere
      by_cases hpast : s.cursor.column + c.width ≤ p.column
      · -- past the text of the command stands what the others print
        have hindex : (cells (c.text? s.look).toList).length ≤ p.column - s.cursor.column :=
          hlength ▸ Nat.le_sub_of_add_le' hpast
        have hbeyond : (cells (c.text? s.look).toList)[p.column - s.cursor.column]? = none :=
          List.getElem?_eq_none hindex
        rw [if_pos ⟨hrow, hpast, hin⟩, List.getElem?_append_right hindex, hbeyond,
          Option.getD_none, hlength, Nat.sub_sub]
      · have hindex : p.column - s.cursor.column < (cells (c.text? s.look).toList).length := by
          omega
        rw [if_neg fun h => hpast h.2.1, List.getElem?_append_left hindex]
    · rw [if_neg hhere, if_neg hhere]
      exact if_neg fun h => hhere ⟨h.1, Nat.le_of_add_right_le h.2.1, h.2.2⟩

end Screen

end CharLcd.Terminal
