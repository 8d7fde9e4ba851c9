import CharLcd.Editor.View
import CharLcd.Proofs.Digits
import CharLcd.Proofs.LcdView
import CharLcd.Proofs.Menu

/-!
# Where the panels of the editor are drawn

- `Layout.pixelArea`, `Layout.optionsArea`, `Layout.sketch_ofSize`: where the panels stand;
  `Layout.not_contains_sketch` says that the sketch keeps off the LCD and the options.
- `Editor.drawsIn_lcdArea`, `drawsIn_drawPixels`, `drawsIn_drawOptions`, `drawsIn_drawSketch`: the
  panels keep to their rectangles.
- `Editor.mem_printed_drawOptions`: on a later tick the options cover what they printed before.
- `Editor.menuText`: what the menu prints after its space.
- `Editor.statusText`: the text of the status line.
- `Editor.mem_printed_drawScreen`: the positions of the whole screen are those of the panels.
-/

namespace CharLcd

open LcdView Terminal

theorem Bitmap.activeCount_le (b : Bitmap) : b.activeCount ≤ glyphRows * glyphColumns := by
  refine Nat.le_trans List.count_le_length ?_
  rw [Grid.toList, List.length_map]
  decide

namespace Layout

/-- The rectangle of the magnified cell, with the line above its box and the line below. -/
def pixelArea (l : Layout) : Area :=
  ⟨⟨l.pixels.column, l.pixels.row - 1⟩, pixelBoxWidth, pixelBoxHeight + 2⟩

/-- The rectangle of the options, and of a question. -/
def optionsArea (l : Layout) : Area := ⟨l.options, optionsWidth, 10⟩

/-- The sketch stands beside the LCD, or beside the options. -/
theorem sketch_ofSize (size : Size) :
    (ofSize size).sketch = ⟨98, 1⟩ ∧ 128 ≤ size.width ∨
      (ofSize size).sketch = ⟨50, 13⟩ ∧ size.width < 128 := by
  by_cases hwide : boxWidth + 1 + leastSketchWidth ≤ size.width
  · exact .inl ⟨if_pos hwide, hwide⟩
  · exact .inr ⟨if_neg hwide, Nat.lt_of_not_le hwide⟩

section

variable {size : Size} {p : Position}

/-- The rows and columns of the LCD. -/
theorem contains_lcdArea (hp : (area (ofSize size).lcd).Contains p) :
    (1 ≤ p.row ∧ p.row < 12) ∧ p.column < 97 :=
  ⟨hp.1, Nat.lt_of_lt_of_eq hp.2.2 (Nat.zero_add 97)⟩

/-- The rows and columns of the magnified cell. -/
theorem contains_pixelArea (hp : (ofSize size).pixelArea.Contains p) :
    (13 ≤ p.row ∧ p.row < 25) ∧ 1 ≤ p.column ∧ p.column < 13 := hp

/-- The rows and columns of the options. -/
theorem contains_optionsArea (hp : (ofSize size).optionsArea.Contains p) :
    (13 ≤ p.row ∧ p.row < 23) ∧ 15 ≤ p.column ∧ p.column < 49 := hp

/-- The sketch stands neither on the LCD nor on the options. -/
theorem not_contains_sketch {width height : Nat}
    (hp : (area (ofSize size).lcd).Contains p ∨ (ofSize size).optionsArea.Contains p) :
    ¬ Area.Contains ⟨(ofSize size).sketch, width, height⟩ p := by
  rintro ⟨hrow, hcolumn⟩
  have hplace := sketch_ofSize size
  have hleft : p.column < 97 ∧ p.row < 12 ∨ p.column < 49 := by
    refine hp.imp (fun h => ?_) fun h => (contains_optionsArea h).2.2
    exact ⟨(contains_lcdArea h).2, (contains_lcdArea h).1.2⟩
  rcases hplace with ⟨hplace, -⟩ | ⟨hplace, -⟩ <;>
    · rw [hplace] at hrow hcolumn
      dsimp only at hrow hcolumn
      omega

end

end Layout

namespace Editor

/-! ## Texts -/

theorem length_padLeft (width : Nat) (text : String) :
    (padLeft width text).length = max width text.length := by
  rw [padLeft, String.length_ofList, List.length_leftpad, String.length_toList]

theorem length_padRight (width : Nat) (text : String) :
    (padRight width text).length = max width text.length := by
  rw [padRight, String.length_ofList, List.length_rightpad, String.length_toList]

theorem length_clip (width : Nat) (text : String) :
    (clip width text).length = min width text.length := by
  rw [clip, String.length_ofList, List.length_take, String.length_toList]

/-- The numbers that the panels show of the selected cell have at most two digits. -/
theorem length_padLeft_two {n : Nat} (h : n < 100) : (padLeft 2 (toString n)).length = 2 := by
  rw [length_padLeft]
  exact Nat.max_eq_left ((Nat.length_repr_le_iff (by decide)).mpr h)

section

variable (s : Editor) (l : Layout)

/-! ## LCD -/

theorem drawsIn_lcdArea : Screen.DrawsIn (area l.lcd) (s.drawLcd l) :=
  drawsIn_drawLcd _ _ _ l.lcd

/-! ## Pixels -/

/-- The title of the magnified cell. -/
def pixelTitle : String :=
  "Cell (" ++ toString s.line.val ++ ", " ++ padLeft 2 (toString s.column.val) ++ ")"

/-- The number of lit pixels in words. -/
def pixelCount : String := "Active: " ++ padLeft 2 (toString s.currentCell.activeCount)

theorem length_pixelTitle : s.pixelTitle.length = pixelBoxWidth := by
  have hline : (toString s.line.val).length = 1 := by
    have hlt : s.line.val < 10 := Nat.lt_trans s.line.isLt (by decide)
    exact Nat.le_antisymm ((Nat.length_repr_le_iff (by decide)).mpr hlt) (length_toString_pos _)
  have hcolumn : s.column.val < 100 := Nat.lt_trans s.column.isLt (by decide)
  simp only [pixelTitle, String.length_append, hline, length_padLeft_two hcolumn]
  rfl

theorem length_pixelCount_le : s.pixelCount.length ≤ pixelBoxWidth := by
  have hcount : s.currentCell.activeCount < 100 :=
    Nat.lt_of_le_of_lt s.currentCell.activeCount_le (by decide)
  rw [pixelCount, String.length_append, length_padLeft_two hcount]
  decide

theorem drawsIn_drawPixel (h : 0 < l.pixels.row) (row : Fin glyphRows)
    (column : Fin glyphColumns) : Screen.DrawsIn l.pixelArea (s.drawPixel l row column) := by
  have hrow := row.isLt
  have hcolumn := column.isLt
  have htext (on : Bool) : (if on then "██" else "· ").length = pixelWidth := by
    cases on <;> rfl
  unfold drawPixel
  refine Screen.drawsIn_styled ?_ ?_ ?_ _
  · simp only [Layout.pixelArea, pixelBoxHeight]
    omega
  · simp only [Layout.pixelArea]
    omega
  · rw [htext]
    simp only [Layout.pixelArea, pixelBoxWidth, pixelWidth, glyphColumns] at hcolumn ⊢
    omega

/-- The magnified cell keeps to its rectangle. -/
theorem drawsIn_drawPixels (h : 0 < l.pixels.row) :
    Screen.DrawsIn l.pixelArea (s.drawPixels l) := by
  have hheight : pixelBoxHeight = 10 := rfl
  have hwidth : pixelBoxWidth = 12 := rfl
  have hborder (left right : Char) : (border pixelBoxWidth left right).length = pixelBoxWidth :=
    length_border (by decide) left right
  have hbar : "│".length = 1 := rfl
  have hprint {column row : Nat} {text : String}
      (hrow : l.pixels.row ≤ row ∧ row < l.pixels.row + pixelBoxHeight)
      (hcolumn : l.pixels.column ≤ column ∧
        column + text.length ≤ l.pixels.column + pixelBoxWidth) :
      Screen.DrawsIn l.pixelArea [.moveTo column row, .print text] :=
    Screen.drawsIn_print (by simp only [Layout.pixelArea]; omega) hcolumn.1 hcolumn.2
  have htitle : Screen.DrawsIn l.pixelArea
      (labelAt l.pixels.column (l.pixels.row - 1) .bold s.pixelTitle) := by
    refine Screen.drawsIn_set ?_ (Nat.le_refl _) ?_ _
    · simp only [Layout.pixelArea]
      omega
    · rw [length_pixelTitle]
      exact Nat.le_refl _
  have hcount : Screen.DrawsIn l.pixelArea
      (labelAt l.pixels.column (l.pixels.row + pixelBoxHeight) .dim s.pixelCount) := by
    refine Screen.drawsIn_set ?_ (Nat.le_refl _) (Nat.add_le_add_left s.length_pixelCount_le _) _
    simp only [Layout.pixelArea]
    omega
  refine ((htitle.append ?_).append (Screen.drawsIn_flatMap fun row _ => ?_)).append hcount
  · show Screen.DrawsIn l.pixelArea ([_, _] ++ [_, _])
    refine (hprint ?_ ?_).append (hprint ?_ ?_)
    · omega
    · rw [hborder]
      omega
    · omega
    · rw [hborder]
      omega
  · have hrow := row.isLt
    have hrows : glyphRows = 8 := rfl
    refine (Screen.DrawsIn.append (hprint ?_ ?_) (Screen.drawsIn_flatMap fun column _ =>
      s.drawsIn_drawPixel l h row column)).append (hprint ?_ ?_)
    all_goals omega

/-! ## Options -/

theorem drawsIn_drawOptionRows : Screen.DrawsIn l.optionsArea (s.drawOptionRows l) := by
  have htitle : Screen.DrawsIn l.optionsArea
      (labelAt l.options.column l.options.row .bold "Options") := by
    have htext : "Options".length ≤ optionsWidth := by decide
    exact Screen.drawsIn_set ⟨Nat.le_refl _, Nat.lt_add_of_pos_right (by decide : 0 < 10)⟩
      (Nat.le_refl _) (Nat.add_le_add_left htext _) _
  refine htitle.append (Screen.drawsIn_flatMap ?_)
  rintro ⟨⟨label, value⟩, i⟩ hmem
  have hi : i < 8 := List.snd_lt_of_mem_zipIdx hmem
  refine Screen.drawsIn_print ?_ (Nat.le_refl _) (Nat.add_le_add_left ?_ _)
  · simp only [Layout.optionsArea]
    omega
  · rw [length_clip]
    exact Nat.min_le_left _ _

theorem drawsIn_drawAnswer {row : Nat} {label : String} (hrow : row < 10)
    (hlabel : label.length ≤ 6) (marked : Bool) :
    Screen.DrawsIn l.optionsArea
      (drawAnswer l.options.column (l.options.row + row) label marked) := by
  have hrows : l.optionsArea.origin.row ≤ l.options.row + row ∧
      l.options.row + row < l.optionsArea.origin.row + l.optionsArea.height :=
    ⟨Nat.le_add_right _ _, Nat.add_lt_add_left hrow _⟩
  have hwidth (mark : String) (hmark : mark.length = 2) :
      l.options.column + (mark ++ padRight 6 label).length ≤
        l.optionsArea.origin.column + l.optionsArea.width := by
    rw [String.length_append, hmark, length_padRight, Nat.max_eq_left hlabel]
    exact Nat.add_le_add_left (by decide : 2 + 6 ≤ optionsWidth) _
  cases marked with
  | true => exact Screen.drawsIn_set hrows (Nat.le_refl _) (hwidth "> " rfl) _
  | false => exact Screen.drawsIn_print hrows (Nat.le_refl _) (hwidth "  " rfl)

theorem drawsIn_drawQuestion (question : Question) (yes : Bool) :
    Screen.DrawsIn l.optionsArea (drawQuestion l question yes) := by
  have hlabel (row : Nat) {look : Attribute} {text : String} (hrow : row < 10)
      (htext : text.length ≤ optionsWidth) :
      Screen.DrawsIn l.optionsArea
        (labelAt l.options.column (l.options.row + row) look text) :=
    Screen.drawsIn_set ⟨Nat.le_add_right _ _, Nat.add_lt_add_left hrow _⟩ (Nat.le_refl _)
      (Nat.add_le_add_left htext _) look
  have hmessage : (clip optionsWidth question.message).length ≤ optionsWidth := by
    rw [length_clip]
    exact Nat.min_le_left _ _
  exact (((hlabel 0 (by decide) (by decide)).append (hlabel 2 (by decide) hmessage)).append
    (drawsIn_drawAnswer l (by decide) (by decide) yes)).append
    (drawsIn_drawAnswer l (by decide) (by decide) !yes)

/-- The options keep to their rectangle, and so does a question. -/
theorem drawsIn_drawOptions : Screen.DrawsIn l.optionsArea (s.drawOptions l) := by
  unfold drawOptions
  split
  next => exact s.drawsIn_drawOptionRows l
  next question yes _ => exact drawsIn_drawQuestion l question yes

/-- The value of the last option, which is the state of the preview. -/
def previewText : String :=
  if s.playback.isPlaying then "tick " ++ toString s.playback.tick else "stopped"

/-- All options but the last. -/
def settingRows : List (String × String) := s.optionRows.take 7

/-- The last row of the options shows the preview, and the others do not depend on it. -/
theorem drawOptionRows_eq :
    s.drawOptionRows l =
      labelAt l.options.column l.options.row .bold "Options" ++
        (s.settingRows.zipIdx.flatMap fun ((label, value), i) =>
          [.moveTo l.options.column (l.options.row + 2 + i),
            .print (clip optionsWidth (padRight 18 label ++ value))]) ++
        [.moveTo l.options.column (l.options.row + 2 + 7),
          .print (clip optionsWidth (padRight 18 "[Enter] Preview" ++ s.previewText))] := by
  have hrows : s.optionRows = s.settingRows ++ [("[Enter] Preview", s.previewText)] := rfl
  rw [drawOptionRows, hrows, List.zipIdx_append, List.flatMap_append, ← List.append_assoc]
  rfl

/-- On a later tick the options print to all positions that they printed to before. -/
theorem mem_printed_drawOptions {playback : Playback} {cursor p : Position}
    (hplaying : playback.isPlaying = s.playback.isPlaying) (htick : s.playback.tick ≤ playback.tick)
    (hp : p ∈ Screen.printed cursor (s.drawOptions l)) :
    p ∈ Screen.printed cursor ({ s with playback }.drawOptions l) := by
  unfold drawOptions at hp ⊢
  dsimp only
  split at hp
  next hmode =>
    have hlonger : s.previewText.length ≤ { s with playback }.previewText.length := by
      simp only [previewText, hplaying]
      split
      next =>
        rw [String.length_append, String.length_append]
        exact Nat.add_le_add_left (length_toString_mono htick) _
      next => exact Nat.le_refl _
    have hsettings : { s with playback }.settingRows = s.settingRows := rfl
    rw [drawOptionRows_eq, Screen.printed_append _ _ (Screen.movesFirst_moveTo _ _ _)] at hp ⊢
    rw [hsettings]
    refine (List.mem_append.mp hp).elim (List.mem_append_left _) fun hlast => ?_
    refine List.mem_append_right _ ?_
    simp only [Screen.printed, List.append_nil, Screen.mem_span, length_clip,
      String.length_append] at hlast ⊢
    exact ⟨hlast.1, hlast.2.1, by omega⟩
  next question yes hmode => exact hp

/-! ## Sketch -/

/-- The title of the sketch. -/
def sketchTitle : String := "Sketch (" ++ toString s.sketchLines ++ " lines)"

/-- The sketch keeps to a rectangle that has room for its panel and its title. -/
theorem drawsIn_drawSketch {width : Nat} (hwidth : l.sketchWidth ≤ width)
    (htitle : 2 + s.sketchTitle.length ≤ width) :
    Screen.DrawsIn ⟨l.sketch, width, l.sketchHeight⟩ (s.drawSketch l) := by
  unfold drawSketch
  split
  next => exact Screen.drawsIn_nil _
  next hroom =>
    have hbar : "│".length = 1 := rfl
    refine (Screen.DrawsIn.append ?_ (Screen.drawsIn_flatMap fun row hrow => ?_)).append
      (Screen.drawsIn_flatMap ?_)
    · refine Screen.drawsIn_set ?_ (Nat.le_add_right _ _) ?_ _
      · dsimp only
        omega
      · rw [Nat.add_assoc]
        exact Nat.add_le_add_left htitle _
    · have hlt := List.mem_range.mp hrow
      refine Screen.drawsIn_print ⟨Nat.le_add_right _ _, Nat.add_lt_add_left hlt _⟩
        (Nat.le_refl _) ?_
      dsimp only
      omega
    · rintro ⟨line, i⟩ hmem
      have hi := List.snd_lt_of_mem_zipIdx hmem
      rw [List.length_take] at hi
      refine Screen.drawsIn_print ?_ (Nat.le_add_right _ _) ?_
      · dsimp only at hi ⊢
        omega
      · rw [length_clip]
        dsimp only
        omega

/-- However long its title is, the sketch keeps to the rows and to the right of its corner. -/
theorem exists_drawsIn_drawSketch :
    ∃ width, Screen.DrawsIn ⟨l.sketch, width, l.sketchHeight⟩ (s.drawSketch l) :=
  ⟨l.sketchWidth + (2 + s.sketchTitle.length),
    s.drawsIn_drawSketch l (Nat.le_add_right _ _) (Nat.le_add_left _ _)⟩

theorem drawing_drawSketch : Screen.Drawing (s.drawSketch l) := by
  obtain ⟨_, h⟩ := s.exists_drawsIn_drawSketch l
  exact h.toDrawing

/-! ## Menu -/

/-- What follows the space at the beginning of the menu. -/
def menuText (width : Nat) : List Command :=
  match s.menuItems with
  | [] => []
  | (item, active) :: rest =>
    if width < 1 + Menu.width item then []
    else Menu.draw item active ++ drawItems width (1 + Menu.width item) rest

theorem drawMenu_eq (h : l.menuHeight ≠ 0) :
    s.drawMenu l = .moveTo 0 0 :: .clearLine :: .print " " :: s.menuText l.termWidth := by
  rw [drawMenu, if_neg h, menuText]
  rfl

/-- The widths of all items are counted without loss. -/
theorem width_of_mem_menuItems {item : String × Bool} (h : item ∈ s.menuItems) :
    Menu.width item.1 = item.1.length := by
  have hshort : ∀ name ∈ s.menuItems.map Prod.fst, name.length < UInt16.size := by
    unfold menuItems
    split
    all_goals
      simp only [List.map_cons, List.map_nil]
      decide
  exact Nat.mod_eq_of_lt (hshort item.1 (List.mem_map_of_mem h))

theorem isText_of_mem_drawItems {width x : Nat} {items : List (String × Bool)} {c : Command}
    (hc : c ∈ drawItems width x items) : c.isText = true := by
  induction items generalizing x with
  | nil => cases hc
  | cons item rest ih =>
    rw [drawItems] at hc
    split at hc
    next => cases hc
    next =>
      rcases List.mem_cons.mp hc with rfl | hc
      · rfl
      · exact (List.mem_append.mp hc).elim Menu.isText_of_mem_draw ih

theorem stayPlain_drawItems (width x : Nat) (items : List (String × Bool)) :
    Screen.StayPlain (drawItems width x items) := by
  induction items generalizing x with
  | nil => exact fun _ hs => hs
  | cons item rest ih =>
    rw [drawItems]
    split
    next => exact fun _ hs => hs
    next =>
      have hseparator : Screen.StayPlain [.print separator] :=
        fun _ hs => (Screen.look_print _ _).trans hs
      exact (hseparator.append (Menu.stayPlain_draw item.1 item.2)).append (ih _)

theorem isText_of_mem_menuText {width : Nat} {c : Command} (hc : c ∈ s.menuText width) :
    c.isText = true := by
  unfold menuText at hc
  split at hc
  next => cases hc
  next =>
    split at hc
    next => cases hc
    next =>
      exact (List.mem_append.mp hc).elim Menu.isText_of_mem_draw isText_of_mem_drawItems

theorem stayPlain_menuText (width : Nat) : Screen.StayPlain (s.menuText width) := by
  unfold menuText
  split
  next => exact fun _ hs => hs
  next item active rest _ =>
    split
    next => exact fun _ hs => hs
    next => exact (Menu.stayPlain_draw item active).append (stayPlain_drawItems _ _ rest)

/-- The menu is printed in the first row. -/
theorem printed_drawMenu (h : l.menuHeight ≠ 0) (cursor : Position) :
    Screen.printed cursor (s.drawMenu l) =
      Screen.span ⟨0, 0⟩ (1 + textWidth (s.menuText l.termWidth)) := by
  have htext : ∀ c ∈ Command.print " " :: s.menuText l.termWidth, c.isText = true := by
    intro c hc
    rcases List.mem_cons.mp hc with rfl | hc
    · rfl
    · exact s.isText_of_mem_menuText hc
  rw [drawMenu_eq s l h]
  show Screen.printed ⟨0, 0⟩ (.print " " :: s.menuText l.termWidth) = _
  rw [Screen.printed_of_isText htext, textWidth_cons]
  rfl

theorem stayPlain_drawMenu : Screen.StayPlain (s.drawMenu l) := by
  by_cases h : l.menuHeight = 0
  · rw [drawMenu, if_pos h]
    exact fun _ hs => hs
  · rw [drawMenu_eq s l h]
    show Screen.StayPlain ([_, _, _] ++ s.menuText l.termWidth)
    refine Screen.StayPlain.append ?_ (s.stayPlain_menuText _)
    exact Screen.stayPlain_of_isPlain (by simp [Command.isPlain])

/-! ## Status line -/

/-- The text of the status line. -/
def statusText : String :=
  " " ++ s.modeName ++ " | " ++ s.path ++ (if s.dirty then " [modified]" else "") ++ " " ++
    s.message

theorem drawStatus_eq :
    s.drawStatus l =
      [.moveTo 0 l.statusRow, .clearLine, .set .dim, .print s.statusText, .reset] := rfl

theorem stayPlain_drawStatus : Screen.StayPlain (s.drawStatus l) := fun _ _ => rfl

theorem movesFirst_drawStatus : Screen.MovesFirst (s.drawStatus l) :=
  Screen.movesFirst_moveTo _ _ _

/-- Drawing the status line leaves all other rows alone. -/
theorem cell_run_drawStatus {t : Screen} {p : Position} (hp : p.row ≠ l.statusRow) :
    (t.run (s.drawStatus l)).cell p = t.cell p := by
  have hkeeps : ∀ c ∈ s.drawStatus l, c.KeepsTo (· = l.statusRow) := by
    simp [drawStatus_eq, Command.KeepsTo]
  exact Screen.cell_run_moveTo_of_keepsTo hkeeps hp

theorem printed_drawStatus (cursor : Position) :
    Screen.printed cursor (s.drawStatus l) = Screen.span ⟨0, l.statusRow⟩ s.statusText.length := by
  simp only [drawStatus_eq, Screen.printed, List.append_nil]

end

/-! ## The whole screen -/

section

variable (s : Editor) (size : Size)

theorem drawScreen_eq :
    let l := Layout.ofSize size
    s.drawScreen size =
      .clearScreen :: s.drawMenu l ++
        (s.drawLcd l ++
          (s.drawPixels l ++ (s.drawOptions l ++ (s.drawSketch l ++ s.drawStatus l)))) := by
  simp only [drawScreen, List.append_assoc, List.cons_append]

theorem stayPlain_clearScreen_drawMenu (l : Layout) :
    Screen.StayPlain (.clearScreen :: s.drawMenu l) := by
  have hclear : Screen.StayPlain [.clearScreen] := fun _ hs => hs
  exact hclear.append (s.stayPlain_drawMenu l)

theorem stayPlain_drawScreen : Screen.StayPlain (s.drawScreen size) := by
  rw [drawScreen_eq]
  refine (s.stayPlain_clearScreen_drawMenu _).append ?_
  refine (s.drawsIn_lcdArea _).stayPlain.append ?_
  refine (s.drawsIn_drawPixels _ (Nat.succ_pos _)).stayPlain.append ?_
  refine (s.drawsIn_drawOptions _).stayPlain.append ?_
  exact (s.drawing_drawSketch _).stayPlain.append (s.stayPlain_drawStatus _)

/-- Every position that is printed to belongs to one of the panels. -/
theorem mem_printed_drawScreen {cursor p : Position} :
    let l := Layout.ofSize size
    p ∈ Screen.printed cursor (s.drawScreen size) ↔
      p ∈ Screen.printed cursor (s.drawMenu l) ∨ p ∈ Screen.printed cursor (s.drawLcd l) ∨
      p ∈ Screen.printed cursor (s.drawPixels l) ∨ p ∈ Screen.printed cursor (s.drawOptions l) ∨
      p ∈ Screen.printed cursor (s.drawSketch l) ∨ p ∈ Screen.printed cursor (s.drawStatus l) := by
  intro l
  have hstatus := s.movesFirst_drawStatus l
  have hsketch := (s.drawing_drawSketch l).movesFirst.append hstatus
  have hoptions := (s.drawsIn_drawOptions l).movesFirst.append hsketch
  have hpixels := (s.drawsIn_drawPixels l (Nat.succ_pos _)).movesFirst.append hoptions
  have hlcd := (s.drawsIn_lcdArea l).movesFirst.append hpixels
  rw [drawScreen_eq, List.cons_append]
  show p ∈ Screen.printed cursor (s.drawMenu l ++ _) ↔ _
  rw [Screen.printed_append _ _ hlcd, Screen.printed_append _ _ hpixels,
    Screen.printed_append _ _ hoptions, Screen.printed_append _ _ hsketch,
    Screen.printed_append _ _ hstatus]
  simp only [List.mem_append]

end

end Editor

end CharLcd
