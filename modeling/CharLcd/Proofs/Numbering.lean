import CharLcd.Proofs.GlyphTable
import Mathlib.Data.Finset.Card
import Mathlib.Data.Fintype.Prod

/-!
# The numbering of characters

The characters of a display are numbered without gaps and without repetition, in the order in
which the scan meets them.

- `pairwise_idxOf_eraseDups`: a list without its repetitions is in the order of first appearance.
- `GlyphTable.index?_eq_some_iff`: the number of a bitmap, where no character comes twice.
- `GlyphTable.idxOf_toList_place`: the scan meets a number where it meets the character first.
- `GlyphTable.Numbers`: a table and slots number the characters of a display;
  `numbers_ofDisplay` says that those of the display do.
-/

namespace CharLcd

/-! ## First appearances -/

section

variable {α : Type} [BEq α] [LawfulBEq α]

/-- What comes first among the items that are kept, comes first among all. -/
theorem idxOf_lt_of_filter {keep : α → Bool} {items : List α} {a b : α} (ha : keep a = true)
    (hb : keep b = true) (h : (items.filter keep).idxOf a < (items.filter keep).idxOf b) :
    items.idxOf a < items.idxOf b := by
  induction items with
  | nil => exact h
  | cons c items ih =>
    by_cases hca : c = a
    · -- `a` is at the front, and `b` is another item, or it would be there as well
      subst hca
      rw [List.filter_cons_of_pos ha, List.idxOf_cons_self] at h
      have hne : c ≠ b := by
        rintro rfl
        rw [List.idxOf_cons_self] at h
        exact Nat.lt_irrefl 0 h
      rw [List.idxOf_cons_self, List.idxOf_cons_ne _ hne]
      exact Nat.succ_pos _
    · by_cases hcb : c = b
      · subst hcb
        rw [List.filter_cons_of_pos hb, List.idxOf_cons_self] at h
        exact absurd h (Nat.not_lt_zero _)
      · rw [List.idxOf_cons_ne _ hca, List.idxOf_cons_ne _ hcb]
        refine Nat.succ_lt_succ (ih ?_)
        by_cases hc : keep c = true
        · rw [List.filter_cons_of_pos hc, List.idxOf_cons_ne _ hca,
            List.idxOf_cons_ne _ hcb] at h
          exact Nat.lt_of_succ_lt_succ h
        · rw [List.filter_cons_of_neg hc] at h
          exact h

/-- Leaving out repetitions keeps the order in which items appear first. -/
theorem pairwise_idxOf_eraseDups (items : List α) :
    items.eraseDups.Pairwise fun a b => items.idxOf a < items.idxOf b := by
  match items with
  | [] => exact .nil
  | a :: rest =>
    have hrest := pairwise_idxOf_eraseDups (rest.filter fun b => !b == a)
    have hmem : ∀ b ∈ (rest.filter fun b => !b == a).eraseDups, (!b == a) = true := by
      intro b hb
      exact (List.mem_filter.mp (List.mem_eraseDups.mp hb)).2
    have hne : ∀ b ∈ (rest.filter fun b => !b == a).eraseDups, a ≠ b := by
      rintro b hb rfl
      have hself := hmem a hb
      rw [beq_self_eq_true] at hself
      cases hself
    rw [List.eraseDups_cons, List.pairwise_cons]
    constructor
    · intro b hb
      rw [List.idxOf_cons_self, List.idxOf_cons_ne _ (hne b hb)]
      exact Nat.succ_pos _
    · refine hrest.imp_of_mem ?_
      intro b c hb hc hlt
      rw [List.idxOf_cons_ne _ (hne b hb), List.idxOf_cons_ne _ (hne c hc)]
      exact Nat.succ_lt_succ (idxOf_lt_of_filter (hmem b hb) (hmem c hc) hlt)
  termination_by items.length
  decreasing_by
    exact Nat.lt_succ_of_le (List.length_filter_le _ _)

end

/-- The scan of a changed grid is the changed scan. -/
theorem Grid.toList_map {height width : Nat} {α β : Type} (f : α → β) (g : Grid height width α) :
    (g.map f).toList = g.toList.map f := by
  simp [toList]

/-- The bitmaps of the cells that are not blank, in scan order. -/
theorem Display.map_inked (d : Display) :
    d.inked.map (·.2) = d.toList.filter fun b => !b.isBlank := by
  rw [inked, cells, Grid.toList, List.filter_map, List.filter_map, List.map_map]
  rfl

namespace GlyphTable

/-! ## Numbers and characters -/

/-- The characters stand in the order in which the scan meets them. -/
theorem pairwise_glyphs_ofDisplay (d : Display) :
    (ofDisplay d).glyphs.Pairwise fun a b => d.toList.idxOf a < d.toList.idxOf b := by
  rw [ofDisplay, d.map_inked]
  refine (pairwise_idxOf_eraseDups _).imp_of_mem ?_
  intro a b ha hb hlt
  have hinked : ∀ c ∈ (d.toList.filter fun b => !b.isBlank).eraseDups, (!c.isBlank) = true := by
    intro c hc
    exact (List.mem_filter.mp (List.mem_eraseDups.mp hc)).2
  exact idxOf_lt_of_filter (hinked a ha) (hinked b hb) hlt

/-- No character comes twice. -/
theorem nodup_glyphs_ofDisplay (d : Display) : (ofDisplay d).glyphs.Nodup := by
  refine (pairwise_glyphs_ofDisplay d).imp ?_
  rintro a _ hlt rfl
  exact Nat.lt_irrefl _ hlt

/-- Where no character comes twice, a bitmap has the number of its character. -/
theorem index?_eq_some_iff {t : GlyphTable} (h : t.glyphs.Nodup) {b : Bitmap} {index : Nat} :
    t.index? b = some index ↔ t.get? index = some b := by
  constructor
  · exact get?_of_index?
  · intro hget
    obtain ⟨hlt, hb⟩ := List.getElem?_eq_some_iff.mp hget
    refine List.idxOf?_eq_some_iff.mpr ⟨hlt, hb, ?_⟩
    intro j hj heq
    exact Nat.ne_of_lt hj (h.getElem_inj_iff.mp (heq.trans hb.symm))

/-- The scan of the slots meets a number where the scan of the display meets its character. -/
theorem idxOf_toList_place {t : GlyphTable} (h : t.glyphs.Nodup) (d : Display) {b : Bitmap}
    {index : Nat} (hget : t.get? index = some b) :
    (t.place d).toList.idxOf (some index) = d.toList.idxOf b := by
  have hslot : ∀ c : Bitmap, (t.index? c == some index) = (c == b) := by
    intro c
    rw [Bool.eq_iff_iff, beq_iff_eq, beq_iff_eq, index?_eq_some_iff h, hget, Option.some.injEq]
    exact eq_comm
  rw [place, Grid.toList_map, List.idxOf, List.findIdx_map, List.idxOf]
  congr 1
  funext c
  exact hslot c

/-! ## The numbering of a display -/

section

variable (d : Display)

/-- A slot names the character of its cell. -/
theorem get?_of_place {line : Fin lcdLines} {column : Fin lcdColumns} {index : Nat}
    (h : ((ofDisplay d).place d).get line column = some index) :
    (ofDisplay d).get? index = some (d.get line column) := by
  rw [get_place] at h
  exact get?_of_index? h

/-- The slots of the blank cells are empty. -/
theorem place_eq_none_iff (line : Fin lcdLines) (column : Fin lcdColumns) :
    ((ofDisplay d).place d).get line column = none ↔ d.get line column = Bitmap.blank := by
  rw [get_place]
  exact index?_ofDisplay_eq_none_iff d line column

/-- Slots are equal where the cells are. -/
theorem place_eq_place_iff (line line' : Fin lcdLines) (column column' : Fin lcdColumns) :
    ((ofDisplay d).place d).get line column = ((ofDisplay d).place d).get line' column' ↔
      d.get line column = d.get line' column' := by
  constructor
  · intro hslots
    cases hslot : ((ofDisplay d).place d).get line column with
    | none =>
      have hother := hslots.symm.trans hslot
      rw [place_eq_none_iff] at hslot hother
      exact hslot.trans hother.symm
    | some index =>
      have hcell := get?_of_place d hslot
      rw [get?_of_place d (hslots.symm.trans hslot)] at hcell
      exact (Option.some.inj hcell).symm
  · intro hcells
    rw [get_place, get_place, hcells]

/-- Every number is used. -/
theorem exists_place_eq_some {index : Nat} (h : index < (ofDisplay d).size) :
    ∃ line column, ((ofDisplay d).place d).get line column = some index := by
  obtain ⟨-, line, column, hcell⟩ := mem_ofDisplay.mp (List.getElem_mem h)
  refine ⟨line, column, ?_⟩
  rw [get_place, index?_eq_some_iff (nodup_glyphs_ofDisplay d), hcell]
  exact List.getElem?_eq_getElem h

/-- The scan meets the numbers first in their order. -/
theorem idxOf_place_lt {index index' : Nat} (hlt : index < index')
    (h : index' < (ofDisplay d).size) :
    ((ofDisplay d).place d).toList.idxOf (some index) <
      ((ofDisplay d).place d).toList.idxOf (some index') := by
  have hnodup : (ofDisplay d).glyphs.Nodup := nodup_glyphs_ofDisplay d
  rw [idxOf_toList_place hnodup d (List.getElem?_eq_getElem (Nat.lt_trans hlt h)),
    idxOf_toList_place hnodup d (List.getElem?_eq_getElem h)]
  exact List.pairwise_iff_getElem.mp (pairwise_glyphs_ofDisplay d) _ _ _ _ hlt

/-- There are as many characters as different bitmaps that are not blank. -/
theorem size_ofDisplay_eq : (ofDisplay d).size =
    ((Finset.univ.image fun p : Fin lcdLines × Fin lcdColumns => d.get p.1 p.2).erase
      Bitmap.blank).card := by
  have hglyphs : (ofDisplay d).glyphs.toFinset =
      (Finset.univ.image fun p : Fin lcdLines × Fin lcdColumns => d.get p.1 p.2).erase
        Bitmap.blank := by
    ext b
    simp [mem_ofDisplay]
  rw [← hglyphs, List.toFinset_card_of_nodup (nodup_glyphs_ofDisplay d), size]

end

/-- A table and slots number the characters of a display. -/
structure Numbers (t : GlyphTable) (m : SlotMap) (d : Display) : Prop where
  /-- No character comes twice. -/
  nodup : t.glyphs.Nodup
  /-- The blank bitmap is no character. -/
  blank_not_mem : Bitmap.blank ∉ t.glyphs
  /-- The slots of the blank cells are empty. -/
  empty_iff : ∀ line column, m.get line column = none ↔ d.get line column = Bitmap.blank
  /-- The number in a slot is that of the character of the cell. -/
  named : ∀ line column index, m.get line column = some index →
    t.get? index = some (d.get line column)
  /-- Cells that are not blank share a number if and only if they have the same bitmap. -/
  shared_iff : ∀ line column line' column', d.get line column ≠ Bitmap.blank →
    d.get line' column' ≠ Bitmap.blank →
      (m.get line column = m.get line' column' ↔ d.get line column = d.get line' column')
  /-- Every number is used. -/
  used : ∀ index < t.size, ∃ line column, m.get line column = some index
  /-- The scan meets the numbers first in their order. -/
  ordered : ∀ index index', index < index' → index' < t.size →
    m.toList.idxOf (some index) < m.toList.idxOf (some index')
  /-- There are as many characters as different bitmaps in the cells that are not blank. -/
  size_eq : t.size =
    ((Finset.univ.image fun p : Fin lcdLines × Fin lcdColumns => d.get p.1 p.2).erase
      Bitmap.blank).card
  /-- There are at most as many characters as cells. -/
  size_le : t.size ≤ 32
  /-- A byte holds every number. -/
  byte : ∀ line column index, m.get line column = some index → (UInt8.ofNat index).toNat = index

/-- The table of a display and its slots number the characters of the display. -/
theorem numbers_ofDisplay (d : Display) : (ofDisplay d).Numbers ((ofDisplay d).place d) d where
  nodup := nodup_glyphs_ofDisplay d
  blank_not_mem := fun hmem => (mem_ofDisplay.mp hmem).1 rfl
  empty_iff := place_eq_none_iff d
  named := fun _ _ _ => get?_of_place d
  shared_iff := fun line column line' column' _ _ => place_eq_place_iff d line line' column column'
  used := fun _ => exists_place_eq_some d
  ordered := fun _ _ => idxOf_place_lt d
  size_eq := size_ofDisplay_eq d
  size_le := size_ofDisplay_le d
  byte := by
    intro line column index hslot
    obtain ⟨hlt, -⟩ := List.getElem?_eq_some_iff.mp (get?_of_place d hslot)
    have hsize : (ofDisplay d).size ≤ lcdLines * lcdColumns := size_ofDisplay_le d
    exact UInt8.toNat_ofNat_of_lt (Nat.lt_of_lt_of_le hlt (Nat.le_trans hsize (by decide)))

/-- Two cells with the same bitmap share number 0, and the cell between them has number 1. -/
theorem numbers_ofDisplay_three_cells :
    let dot := Bitmap.blank.set 2 2 true
    let dash := Bitmap.blank.set 4 1 true
    let d : Display := ((Display.blank.set 0 3 dot).set 1 9 dot).set 0 5 dash
    let m := (ofDisplay d).place d
    (ofDisplay d).size = 2 ∧ m.get 0 3 = some 0 ∧ (ofDisplay d).get? 0 = some dot ∧
      m.get 0 3 = m.get 1 9 ∧ m.toList.idxOf (some 0) < m.toList.idxOf (some 1) := by
  intro dot dash d m
  have hsize : (ofDisplay d).size = 2 := by decide +kernel
  have hslot : m.get 0 3 = some 0 := by decide +kernel
  have hdot : d.get 0 3 = dot := by decide +kernel
  have hnumbers : (ofDisplay d).Numbers m d := numbers_ofDisplay d
  refine ⟨hsize, hslot, hdot ▸ hnumbers.named 0 3 0 hslot, ?_, ?_⟩
  · refine (hnumbers.shared_iff 0 3 1 9 ?_ ?_).mpr ?_
    · decide +kernel
    · decide +kernel
    · decide +kernel
  · refine hnumbers.ordered 0 1 Nat.zero_lt_one ?_
    rw [hsize]
    exact Nat.one_lt_two

end GlyphTable

end CharLcd
