import CharLcd.Menu
import CharLcd.Proofs.Terminal.Printing

/-!
# How menu items are printed

- `Menu.flatMap_text_segments`: nothing of an item is lost in its segments.
- `Menu.isText_of_mem_draw`, `Menu.stayPlain_draw`: an item is printed where the cursor is, and
  what is printed after it is plain.
- `Menu.textWidth_draw`: as many characters are printed as the item has.
-/

namespace CharLcd.Menu

open Terminal

/-! ## Segments -/

theorem flatMap_text_labelOf (reversed : List Char) :
    (labelOf reversed).flatMap Segment.text = reversed.reverse := by
  cases reversed with
  | nil => rfl
  | cons c rest => exact List.append_nil _

theorem reverse_cons_append (c : Char) (reversed text : List Char) :
    (c :: reversed).reverse ++ text = reversed.reverse ++ c :: text := by
  rw [List.reverse_cons, List.append_assoc, List.singleton_append]

/-- Outside and inside of brackets, the segments hold what has been read and what is left. -/
theorem flatMap_text_outside_inside (text reversed : List Char) :
    (outside reversed text).flatMap Segment.text = reversed.reverse ++ text ∧
      (inside reversed text).flatMap Segment.text = reversed.reverse ++ text := by
  induction text generalizing reversed with
  | nil =>
    rw [List.append_nil, outside, inside]
    exact ⟨flatMap_text_labelOf reversed, List.append_nil _⟩
  | cons c rest ih =>
    have hnext := reverse_cons_append c reversed rest
    rw [outside, inside]
    constructor
    · split
      next hopen =>
        rw [List.flatMap_append, flatMap_text_labelOf, (ih ['[']).2, hopen]
        rfl
      next => rw [(ih (c :: reversed)).1, hnext]
    · split
      next hclose =>
        rw [List.flatMap_cons, (ih []).1, ← hnext, hclose]
        rfl
      next => rw [(ih (c :: reversed)).2, hnext]

/-- Nothing of an item is lost in its segments. -/
theorem flatMap_text_segments (item : String) :
    (segments item).flatMap Segment.text = item.toList :=
  (flatMap_text_outside_inside item.toList []).1

/-! ## Drawing -/

theorem isText_of_mem_draw {item : String} {active : Bool} {c : Command}
    (hc : c ∈ draw item active) : c.isText = true := by
  obtain ⟨segment, -, hc⟩ := List.mem_flatMap.mp hc
  cases segment with
  | label text | key text =>
    simp only [Segment.draw, List.mem_cons, List.not_mem_nil, or_false] at hc
    rcases hc with rfl | rfl | rfl <;> rfl
  | unclosed text =>
    obtain rfl := List.mem_singleton.mp hc
    rfl

theorem stayPlain_draw (item : String) (active : Bool) : Screen.StayPlain (draw item active) := by
  refine Screen.stayPlain_flatMap fun segment _ => ?_
  intro s hs
  cases segment with
  | label text => rfl
  | key text => rfl
  | unclosed text => exact (Screen.look_print _ _).trans hs

theorem textWidth_draw_segment (active : Bool) (segment : Segment) :
    textWidth (segment.draw active) = segment.text.length := by
  cases segment with
  | label text | key text | unclosed text =>
    simp only [Segment.draw, Segment.text, textWidth_cons, textWidth_nil, Command.width,
      String.length_ofList, Nat.zero_add, Nat.add_zero]

/-- As many characters are printed as the item has. -/
theorem textWidth_draw (item : String) (active : Bool) :
    textWidth (draw item active) = item.length := by
  have hwidths (l : List Segment) :
      textWidth (l.flatMap (Segment.draw active)) = (l.flatMap Segment.text).length := by
    induction l with
    | nil => rfl
    | cons segment rest ih =>
      rw [List.flatMap_cons, List.flatMap_cons, textWidth_append, List.length_append, ih,
        textWidth_draw_segment]
  rw [draw, hwidths, flatMap_text_segments, String.length_toList]

end CharLcd.Menu
