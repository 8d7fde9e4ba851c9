import CharLcd.GlyphTable

/-!
# The characters of a display

- `GlyphTable.mem_ofDisplay`: the characters are the bitmaps of the cells that are
  not blank; there are at most as many as cells (`size_ofDisplay_le`).
- `GlyphTable.index?_ofDisplay_eq_none_iff`: only a blank cell has no index.
- `SlotMap.mem_occupied`: the positions that show a character.
-/

namespace CharLcd

/-- Leaving out repetitions makes no list longer. -/
theorem length_eraseDups_le {α : Type} [BEq α] (items : List α) :
    items.eraseDups.length ≤ items.length := by
  match items with
  | [] => exact Nat.le_refl _
  | a :: rest =>
    -- the recursion is that of `eraseDups`, on what is left after removing the repetitions of `a`
    have hfilter := List.length_filter_le (fun b => !b == a) rest
    have hrest := length_eraseDups_le (rest.filter fun b => !b == a)
    rw [List.eraseDups_cons, List.length_cons, List.length_cons]
    omega
  termination_by items.length
  decreasing_by
    rw [List.length_cons]
    omega

namespace Display

theorem mem_inked {d : Display} {c : (Fin lcdLines × Fin lcdColumns) × Bitmap} :
    c ∈ d.inked ↔ c.2 = d.get c.1.1 c.1.2 ∧ c.2 ≠ Bitmap.blank := by
  obtain ⟨p, b⟩ := c
  rw [inked, cells, List.mem_filter, List.mem_map, Bool.not_eq_true', Bool.eq_false_iff, ne_eq,
    Bitmap.isBlank_iff]
  constructor
  · rintro ⟨⟨q, -, heq⟩, hne⟩
    injection heq with hq hb
    exact ⟨by rw [← hb, hq], hne⟩
  · rintro ⟨hb, hne⟩
    exact ⟨⟨p, Grid.mem_positions p, by rw [← hb]⟩, hne⟩

theorem length_inked_le (d : Display) : d.inked.length ≤ lcdLines * lcdColumns := by
  refine Nat.le_trans (List.length_filter_le _ _) ?_
  rw [cells, List.length_map]
  decide

end Display

namespace GlyphTable

/-- The characters of a display are the bitmaps of its cells that are not blank. -/
theorem mem_ofDisplay {d : Display} {b : Bitmap} :
    b ∈ (ofDisplay d).glyphs ↔ b ≠ Bitmap.blank ∧ ∃ line column, d.get line column = b := by
  rw [ofDisplay, List.mem_eraseDups, List.mem_map]
  constructor
  · rintro ⟨c, hc, rfl⟩
    obtain ⟨hcell, hne⟩ := Display.mem_inked.mp hc
    exact ⟨hne, c.1.1, c.1.2, hcell.symm⟩
  · rintro ⟨hne, line, column, rfl⟩
    exact ⟨((line, column), d.get line column), Display.mem_inked.mpr ⟨rfl, hne⟩, rfl⟩

/-- There are at most as many characters as cells. -/
theorem size_ofDisplay_le (d : Display) : (ofDisplay d).size ≤ lcdLines * lcdColumns := by
  refine Nat.le_trans (length_eraseDups_le _) ?_
  rw [List.length_map]
  exact d.length_inked_le

/-- Only a blank cell has no index. -/
theorem index?_ofDisplay_eq_none_iff (d : Display) (line : Fin lcdLines) (column : Fin lcdColumns) :
    (ofDisplay d).index? (d.get line column) = none ↔ d.get line column = Bitmap.blank := by
  rw [index?, List.idxOf?_eq_none_iff, mem_ofDisplay]
  constructor
  · intro h
    by_cases hblank : d.get line column = Bitmap.blank
    · exact hblank
    · exact absurd ⟨hblank, line, column, rfl⟩ h
  · rintro hblank ⟨hne, -⟩
    exact hne hblank

/-- Only the blank display has no characters. -/
theorem entries_ofDisplay_eq_nil_iff {d : Display} :
    (ofDisplay d).entries = [] ↔ d = Display.blank := by
  rw [entries, List.map_eq_nil_iff, List.zipIdx_eq_nil_iff, List.eq_nil_iff_forall_not_mem]
  constructor
  · intro h
    apply Grid.ext_get
    intro line column
    rw [Display.get_blank]
    by_cases hblank : d.get line column = Bitmap.blank
    · exact hblank
    · exact absurd (mem_ofDisplay.mpr ⟨hblank, line, column, rfl⟩) (h _)
  · rintro rfl b hb
    obtain ⟨hne, line, column, hcell⟩ := mem_ofDisplay.mp hb
    rw [Display.get_blank] at hcell
    exact hne hcell.symm

theorem lt_size_of_index? {t : GlyphTable} {b : Bitmap} {index : Nat}
    (h : t.index? b = some index) : index < t.size := by
  obtain ⟨hlt, -⟩ := List.getElem?_eq_some_iff.mp (get?_of_index? h)
  exact hlt

theorem mem_entries {t : GlyphTable} {index : Nat} {b : Bitmap} :
    (index, b) ∈ t.entries ↔ t.get? index = some b := by
  rw [entries, List.mem_map, get?]
  constructor
  · rintro ⟨e, he, heq⟩
    injection heq with hindex hb
    rw [← hindex, ← hb]
    exact List.mem_zipIdx_iff_getElem?.mp he
  · intro h
    exact ⟨(b, index), List.mem_zipIdx_iff_getElem?.mpr h, rfl⟩

end GlyphTable

/-- A position shows a character if its slot is not empty. -/
theorem SlotMap.mem_occupied {m : SlotMap} {p : Fin lcdLines × Fin lcdColumns} {index : Nat} :
    (p, index) ∈ m.occupied ↔ m.get p.1 p.2 = some index := by
  rw [occupied, List.mem_filterMap]
  constructor
  · rintro ⟨q, -, hq⟩
    obtain ⟨i, hi, heq⟩ := Option.map_eq_some_iff.mp hq
    injection heq with hp hindex
    rw [← hp, ← hindex, hi]
  · intro h
    exact ⟨p, Grid.mem_positions p, by rw [h]; rfl⟩

end CharLcd
