import CharLcd.Proofs.Editor.Words
import CharLcd.Proofs.Menu.Parting

/-!
# The menu bar

The menu bar prints its items from the left until one does not fit. Since a line only gets longer
with its items, what it prints is the longest beginning of the items that fits.

- `Editor.menuLine`: the line of some items, as text; `Editor.drawnItems` is how they are drawn.
- `Editor.LongestFitting`: the longest beginning of the items whose line fits in a width.
- `Editor.exists_drawItems_eq`, `Editor.exists_menuText_eq`: the menu prints a beginning that fits,
  and with the next item it would not.
- `Editor.menus_printed`: what is printed of an item, and of a menu.
-/

namespace CharLcd.Editor

open Terminal

/-! ## The line of a menu -/

/-- The line of a menu with some items. -/
def menuLine (items : List (String × Bool)) : String :=
  " " ++ separator.intercalate (items.map Prod.fst)

/-- Draw items with separators between them. -/
def drawnItems (items : List (String × Bool)) : List Command :=
  [.print separator].intercalate (items.map fun item => Menu.draw item.1 item.2)

/-- Draw items with a separator before each. -/
def drawnAfter (items : List (String × Bool)) : List Command :=
  items.flatMap fun item => .print separator :: Menu.draw item.1 item.2

theorem drawnItems_cons (item : String × Bool) (rest : List (String × Bool)) :
    drawnItems (item :: rest) = Menu.draw item.1 item.2 ++ drawnAfter rest := by
  induction rest generalizing item with
  | nil => exact List.intercalate_singleton.trans (List.append_nil _).symm
  | cons next rest ih =>
    have hrest := ih next
    simp only [drawnItems, drawnAfter, List.map_cons, List.flatMap_cons] at hrest ⊢
    rw [List.intercalate_cons_cons, hrest, List.append_assoc]
    rfl

/-- The text of drawn items has the same separators. -/
theorem joined_drawnItems (items : List (String × Bool)) :
    joined (drawnItems items) = separator.intercalate (items.map Prod.fst) := by
  match items with
  | [] => rfl
  | [item] =>
    simp only [drawnItems, List.map_cons, List.map_nil, List.intercalate_singleton,
      String.intercalate_singleton, Menu.joined_draw]
  | item :: next :: rest =>
    have hrest := joined_drawnItems (next :: rest)
    have hseparator : joined [.print separator] = separator := rfl
    simp only [drawnItems, List.map_cons] at hrest ⊢
    rw [List.intercalate_cons_cons, String.intercalate_cons_cons, joined_append, joined_append,
      Menu.joined_draw, hseparator, hrest]

theorem length_menuLine_cons (item : String × Bool) (rest : List (String × Bool)) :
    (menuLine (item :: rest)).length = 1 + item.1.length + itemColumns rest := by
  induction rest generalizing item with
  | nil =>
    simp only [menuLine, List.map_cons, List.map_nil, String.intercalate_singleton,
      String.length_append, itemColumns, Nat.add_zero]
    rfl
  | cons next rest ih =>
    have hrest := ih next
    simp only [menuLine, List.map_cons, String.intercalate_cons_cons, String.length_append,
      itemColumns] at hrest ⊢
    omega

/-- With more items the line is longer. -/
theorem length_menuLine_mono {items more : List (String × Bool)} (h : items <+: more) :
    (menuLine items).length ≤ (menuLine more).length := by
  obtain ⟨rest, rfl⟩ := h
  have hcolumns (items : List (String × Bool)) :
      itemColumns items ≤ itemColumns (items ++ rest) := by
    induction items with
    | nil => exact Nat.zero_le _
    | cons item items ih => exact Nat.add_le_add_left ih _
  cases items with
  | nil =>
    rw [List.nil_append, menuLine, menuLine, String.length_append, String.length_append]
    exact Nat.le_add_right " ".length _
  | cons item items =>
    rw [List.cons_append, length_menuLine_cons, length_menuLine_cons]
    exact Nat.add_le_add_left (hcolumns items) _

/-! ## The items that fit -/

/-- The longest beginning of the items whose line fits in a width. -/
structure LongestFitting (width : Nat) (items shown : List (String × Bool)) : Prop where
  beginning : shown <+: items
  fits : (menuLine shown).length ≤ width
  longest : ∀ {other}, other <+: items → (menuLine other).length ≤ width → other <+: shown

/-- A beginning that fits is the longest if the line does not fit with the next item. -/
theorem longestFitting_append {width : Nat} (shown rest : List (String × Bool))
    (hfits : (menuLine shown).length ≤ width)
    (hnext : ∀ item ∈ rest.head?, width < (menuLine (shown ++ [item])).length) :
    LongestFitting width (shown ++ rest) shown where
  beginning := List.prefix_append shown rest
  fits := hfits
  longest := by
    intro other hother hwidth
    rcases List.prefix_or_prefix_of_prefix hother (List.prefix_append shown rest) with h | h
    · exact h
    · obtain ⟨more, rfl⟩ := h
      rw [List.prefix_append_right_inj] at hother
      cases more with
      | nil => simp
      | cons item more =>
        obtain ⟨last, rfl⟩ := hother
        have hlonger : shown ++ [item] <+: shown ++ item :: more :=
          (List.prefix_append_right_inj shown).mpr (List.prefix_append [item] more)
        have hlt := hnext item rfl
        have hle := length_menuLine_mono hlonger
        omega

/-- Items are printed as long as they fit. -/
theorem exists_drawItems_eq {width x : Nat} {items : List (String × Bool)}
    (hitems : ∀ item ∈ items, Menu.width item.1 = item.1.length) (hx : x ≤ width) :
    ∃ shown rest, items = shown ++ rest ∧ drawItems width x items = drawnAfter shown ∧
      x + itemColumns shown ≤ width ∧
      ∀ item ∈ rest.head?, width < x + itemColumns (shown ++ [item]) := by
  induction items generalizing x with
  | nil => exact ⟨[], [], rfl, rfl, hx, nofun⟩
  | cons item rest ih =>
    have hitem := hitems item List.mem_cons_self
    have hcolumns (shown : List (String × Bool)) :
        itemColumns (item :: shown) = separator.length + item.1.length + itemColumns shown := rfl
    rw [drawItems, hitem]
    split
    next hwide =>
      refine ⟨[], item :: rest, rfl, rfl, hx, ?_⟩
      rintro _ ⟨⟩
      rw [List.nil_append, hcolumns, itemColumns]
      omega
    next hfits =>
      obtain ⟨shown, left, rfl, hdraw, hwidth, hnext⟩ :=
        ih (fun item h => hitems item (List.mem_cons_of_mem _ h)) (Nat.not_lt.mp hfits)
      refine ⟨item :: shown, left, rfl, ?_, ?_, ?_⟩
      · rw [hdraw]
        rfl
      · rw [hcolumns]
        omega
      · intro next hmem
        have hlt := hnext next hmem
        rw [List.cons_append, hcolumns]
        omega

section

variable (s : Editor)

/-- The menu prints a beginning of its items that fits, and with the next item it would not. -/
theorem exists_menuText_eq {width : Nat} (h : 1 ≤ width) :
    ∃ shown, LongestFitting width s.menuItems shown ∧ s.menuText width = drawnItems shown := by
  have hwidths : ∀ item ∈ s.menuItems, Menu.width item.1 = item.1.length :=
    fun _ => s.width_of_mem_menuItems
  unfold menuText
  cases hitems : s.menuItems with
  | nil =>
    exact ⟨[], longestFitting_append [] [] h nofun, rfl⟩
  | cons item rest =>
    rw [hitems] at hwidths
    have hitem : Menu.width item.1 = item.1.length := hwidths item List.mem_cons_self
    dsimp only
    rw [hitem]
    split
    next hwide =>
      refine ⟨[], longestFitting_append [] (item :: rest) h ?_, rfl⟩
      rintro _ ⟨⟩
      rw [List.nil_append, length_menuLine_cons]
      exact hwide
    next hfits =>
      obtain ⟨shown, left, rfl, hdraw, hwidth, hnext⟩ := exists_drawItems_eq
        (fun item h => hwidths item (List.mem_cons_of_mem _ h)) (Nat.not_lt.mp hfits)
      refine ⟨item :: shown, ?_, ?_⟩
      · refine longestFitting_append (item :: shown) left ?_ ?_
        · rw [length_menuLine_cons]
          exact hwidth
        · intro next hmem
          rw [List.cons_append, length_menuLine_cons]
          exact hnext next hmem
      · rw [hdraw, drawnItems_cons]

/-- The menu ends where the terminal does. -/
theorem textWidth_menuText_le {width : Nat} (h : 1 ≤ width) :
    1 + textWidth (s.menuText width) ≤ width := by
  obtain ⟨shown, hlongest, hshown⟩ := s.exists_menuText_eq h
  have hfits := hlongest.fits
  rw [menuLine, String.length_append, ← joined_drawnItems, length_joined] at hfits
  rw [hshown]
  exact hfits

/-! ## The menu on the screen -/

variable {l : Layout} (hmenu : l.menuHeight ≠ 0) {shown : List (String × Bool)}
  (hshown : s.menuText l.termWidth = drawnItems shown)

include hmenu hshown

theorem drawMenu_eq_drawnItems :
    s.drawMenu l = .moveTo 0 0 :: .clearLine :: .print " " :: drawnItems shown := by
  rw [drawMenu_eq s l hmenu, hshown]

/-- The text of the menu is the line of the items that are shown. -/
theorem joined_drawMenu : joined (s.drawMenu l) = menuLine shown := by
  rw [s.drawMenu_eq_drawnItems hmenu hshown]
  show joined ([.moveTo 0 0, .clearLine, .print " "] ++ drawnItems shown) = _
  rw [joined_append, joined_drawnItems]
  rfl

/-- The line is printed from the left of the first row on. -/
theorem printed_drawMenu_eq (cursor : Position) :
    Screen.printed cursor (s.drawMenu l) = Screen.span ⟨0, 0⟩ (menuLine shown).length := by
  have hlength : textWidth (s.drawMenu l) = 1 + textWidth (s.menuText l.termWidth) := by
    rw [drawMenu_eq s l hmenu]
    simp only [textWidth_cons, Command.width, Nat.zero_add]
    rfl
  rw [s.printed_drawMenu l hmenu, ← hlength, ← length_joined, s.joined_drawMenu hmenu hshown]

/-- After drawing the menu the first row shows its line, and nothing after it. -/
theorem char_run_drawMenu (t : Screen) {p : Position} (hrow : p.row = 0)
    (hin : t.size.contains p = true) :
    ((t.run (s.drawMenu l)).cell p).char = (menuLine shown).toList.getD p.column ' ' := by
  have htext : ∀ c ∈ Command.print " " :: drawnItems shown, c.isText = true := by
    intro c hc
    rcases List.mem_cons.mp hc with rfl | hc
    · rfl
    · exact s.isText_of_mem_menuText (hshown ▸ hc)
  have hline (look : Look) :
      (cells (texts look (.print " " :: drawnItems shown))).map Cell.char =
        (menuLine shown).toList := by
    rw [map_char_cells, map_snd_texts look {}, ← s.joined_drawMenu hmenu hshown,
      s.drawMenu_eq_drawnItems hmenu hshown]
    rfl
  have hchar (cell? : Option Cell) : (cell?.getD {}).char = (cell?.map Cell.char).getD ' ' := by
    cases cell? <;> rfl
  -- the row is empty when the line is printed
  let cleared : Screen := (t.perform (.moveTo 0 0)).perform .clearLine
  have hcell : cleared.cell p = {} := if_pos hrow
  rw [s.drawMenu_eq_drawnItems hmenu hshown]
  show ((cleared.run (.print " " :: drawnItems shown)).cell p).char = _
  rw [Screen.cell_run_of_isText htext, if_pos ⟨hrow, Nat.zero_le _, hin⟩, hcell, hchar,
    ← List.getElem?_map, hline, List.getD_eq_getElem?_getD]
  rfl

end

/-- An item is parted at its brackets in one way, and its segments are printed one after the other:
nothing of it is lost, it takes as many columns as are counted for it if sixteen bits can hold them,
and what is bold are its keys, from an opening bracket to the next closing one. A menu prints the
longest beginning of its items that has room in the row together with the space before them and the
separators between them. Nothing overflows on the way, nothing else is printed, and nothing else
stands in the row afterwards. -/
theorem menus_printed (s : Editor) {size : Size} (h : 1 ≤ size.width) :
    (∀ (item : String) (active : Bool),
      (∀ parts, Menu.Parted item.toList parts ↔ parts = Menu.segments item) ∧
      texts {} (Menu.draw item active) = (Menu.segments item).map
        (fun segment => (segment.look active, String.ofList segment.text)) ∧
      joined (Menu.draw item active) = item ∧
      (textWidth (Menu.draw item active) = Menu.width item ↔ item.length < UInt16.size) ∧
      ((texts {} (Menu.draw item active)).filter (·.1.bold)).map Prod.snd =
        (Menu.segments item).filterMap Menu.Segment.key?) ∧
    let l := Layout.ofSize size
    ∃ shown, LongestFitting size.width s.menuItems shown ∧
      s.drawMenu? l = some (s.drawMenu l) ∧
      s.drawMenu l = .moveTo 0 0 :: .clearLine :: .print " " :: drawnItems shown ∧
      joined (s.drawMenu l) = menuLine shown ∧
      (∀ cursor, Screen.printed cursor (s.drawMenu l) =
        Screen.span ⟨0, 0⟩ (menuLine shown).length) ∧
      ∀ t : Screen, t.size = size → ∀ p, p.row = 0 → size.contains p = true →
        ((t.run (s.drawMenu l)).cell p).char = (menuLine shown).toList.getD p.column ' ' := by
  constructor
  · intro item active
    exact ⟨fun _ => Menu.parted_iff, Menu.texts_draw item active, Menu.joined_draw item active,
      Menu.textWidth_draw_eq_width_iff item active, Menu.bold_texts_draw item active⟩
  · intro l
    have hmenu : l.menuHeight ≠ 0 := Nat.one_ne_zero
    obtain ⟨shown, hlongest, hshown⟩ := s.exists_menuText_eq h
    refine ⟨shown, hlongest, s.drawMenu?_eq l, s.drawMenu_eq_drawnItems hmenu hshown,
      s.joined_drawMenu hmenu hshown, s.printed_drawMenu_eq hmenu hshown, ?_⟩
    rintro t rfl p hrow hin
    exact s.char_run_drawMenu hmenu hshown t hrow hin

/-- Two items have room in 29 columns and take all of them. -/
theorem menus_printed_two_items :
    let size : Size := ⟨29, 1⟩
    let s := ofSession (Session.ofDesign Display.blank {}) "design.json" {}
    let item := "a[b[c]]d[e"
    1 ≤ size.width ∧
      ((texts {} (Menu.draw item true)).filter (·.1.bold)).map Prod.snd = ["[b[c]"] ∧
      joined (Menu.draw item true) = item ∧
      joined (s.drawMenu (Layout.ofSize size)) = " [←→↑↓] pixel  [Space] toggle" := by
  intro size s item
  have hwidth : 1 ≤ size.width := by decide
  obtain ⟨hitem, shown, hlongest, -, -, hjoined, -⟩ := menus_printed s hwidth
  obtain ⟨-, -, hwhole, -, hbold⟩ := hitem item true
  have hkeys : (Menu.segments item).filterMap Menu.Segment.key? = ["[b[c]"] := by decide +kernel
  have hitems : s.menuItems.take 2 = [("[←→↑↓] pixel", false), ("[Space] toggle", false)] := rfl
  have hroom : (menuLine (s.menuItems.take 2)).length ≤ size.width := by decide +kernel
  have hfull : size.width < (menuLine (s.menuItems.take 3)).length := by decide +kernel
  have hshown : shown = s.menuItems.take 2 := by
    have htwo := hlongest.longest (List.take_prefix 2 s.menuItems) hroom
    refine (htwo.eq_of_length_le (Nat.le_of_not_lt fun hlt => ?_)).symm
    have hthree := List.prefix_of_prefix_length_le (List.take_prefix 3 s.menuItems)
      hlongest.beginning hlt
    exact absurd (Nat.le_trans (length_menuLine_mono hthree) hlongest.fits) (Nat.not_le.mpr hfull)
  refine ⟨hwidth, hbold.trans hkeys, hwhole, ?_⟩
  rw [hjoined, hshown, hitems]
  decide +kernel

end CharLcd.Editor
