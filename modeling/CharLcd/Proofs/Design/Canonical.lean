import CharLcd.Design.Check
import CharLcd.Proofs.Design.Reading
import CharLcd.Proofs.GlyphTable
import CharLcd.Proofs.Scan

/-!
# Saved design files

Among the texts that describe a display with options there is one that saving
writes, so it can stand for all of them.

- `DesignFile.toDisplay_map_ofCell`: what a file describes that lists cells in any order, blank ones
  too; `toDisplay_ofDisplay` for the file of a display.
- `Denotes`: a text describes a display with options.
- `saved_canonical`: two texts describe the same if and only if the same text is
  saved for both.
-/

namespace CharLcd

/-! ## Bitmaps -/

theorem firstBadRow_eq_none {rows : List (List Bool)}
    (h : ∀ row ∈ rows, row.length = glyphColumns) (index : Nat) : firstBadRow index rows = none := by
  induction rows generalizing index with
  | nil => rfl
  | cons row rows ih =>
    rw [firstBadRow, if_pos (h row List.mem_cons_self)]
    exact ih (fun other hother => h other (List.mem_cons_of_mem row hother)) (index + 1)

theorem CellSource.toBitmap_rows (line column : UInt64) (b : Bitmap) :
    CellSource.toBitmap ⟨line, column, b.rows⟩ = .ok b := by
  rw [toBitmap, if_neg (not_not_intro b.length_rows),
    firstBadRow_eq_none fun row hrow => Bitmap.length_of_mem_rows hrow]
  exact congrArg Except.ok b.ofRows_rows

/-! ## Cells -/

/-- A cell of a display as a design file lists it. -/
def CellSource.ofCell (c : (Fin lcdLines × Fin lcdColumns) × Bitmap) : CellSource :=
  ⟨UInt64.ofNat c.1.1.val, UInt64.ofNat c.1.2.val, c.2.rows⟩

/-- The position of a cell in a file. -/
def CellSource.position (c : CellSource) : UInt64 × UInt64 := (c.line, c.column)

section

variable (c c' : (Fin lcdLines × Fin lcdColumns) × Bitmap)

theorem toNat_line_ofCell : (CellSource.ofCell c).line.toNat = c.1.1.val :=
  UInt64.toNat_ofNat_of_lt (Nat.lt_trans c.1.1.isLt (by decide))

theorem toNat_column_ofCell : (CellSource.ofCell c).column.toNat = c.1.2.val :=
  UInt64.toNat_ofNat_of_lt (Nat.lt_trans c.1.2.isLt (by decide))

variable {c c'}

/-- Different cells have different positions in a file. -/
theorem position_ofCell_injective
    (h : (CellSource.ofCell c).position = (CellSource.ofCell c').position) : c.1 = c'.1 := by
  obtain ⟨hline, hcolumn⟩ := Prod.mk.inj h
  apply Prod.ext
  · apply Fin.ext
    rw [← toNat_line_ofCell c, ← toNat_line_ofCell c', hline]
  · apply Fin.ext
    rw [← toNat_column_ofCell c, ← toNat_column_ofCell c', hcolumn]

end

namespace Draft

/-- A cell of a display can be added where none has been given. -/
theorem add_ofCell {draft : Draft} {c : (Fin lcdLines × Fin lcdColumns) × Bitmap}
    (h : (CellSource.ofCell c).position ∉ draft.given) :
    draft.add (.ofCell c) =
      .ok ⟨draft.display.set c.1.1 c.1.2 c.2, (CellSource.ofCell c).position :: draft.given⟩ := by
  have hinside : (CellSource.ofCell c).line.toNat < lcdLines ∧
      (CellSource.ofCell c).column.toNat < lcdColumns := by
    rw [toNat_line_ofCell, toNat_column_ofCell]
    exact ⟨c.1.1.isLt, c.1.2.isLt⟩
  have hgiven : ((CellSource.ofCell c).line, (CellSource.ofCell c).column) ∉ draft.given := h
  have hbitmap : (CellSource.ofCell c).toBitmap = .ok c.2 := CellSource.toBitmap_rows _ _ c.2
  have hset : draft.display.set ⟨_, hinside.1⟩ ⟨_, hinside.2⟩ c.2 =
      draft.display.set c.1.1 c.1.2 c.2 := by
    congr 1
    · exact Fin.ext (toNat_line_ofCell c)
    · exact Fin.ext (toNat_column_ofCell c)
  rw [add, dif_pos hinside, if_neg hgiven, hbitmap]
  show Except.ok (Draft.mk (draft.display.set _ _ c.2) _) = _
  rw [hset]
  rfl

/-- Adding cells at different positions puts each of them in its place. -/
theorem foldlM_add (cells : List ((Fin lcdLines × Fin lcdColumns) × Bitmap)) (draft : Draft)
    (hnodup : (cells.map (·.1)).Nodup)
    (hfresh : ∀ c ∈ cells, (CellSource.ofCell c).position ∉ draft.given) :
    ∃ after, (cells.map CellSource.ofCell).foldlM add draft = .ok after ∧
      ∀ line column, after.display.get line column =
        (cells.lookup (line, column)).getD (draft.display.get line column) := by
  induction cells generalizing draft with
  | nil => exact ⟨draft, rfl, fun _ _ => rfl⟩
  | cons c cells ih =>
    -- the later cells stand elsewhere, so none of their positions has been given
    obtain ⟨hc, hnodup⟩ := List.nodup_cons.mp hnodup
    have hadd := add_ofCell (hfresh c List.mem_cons_self)
    have hrest : ∀ other ∈ cells, (CellSource.ofCell other).position ∉
        (CellSource.ofCell c).position :: draft.given := by
      intro other hother hmem
      rcases List.mem_cons.mp hmem with heq | hmem
      · exact hc (List.mem_map.mpr ⟨other, hother, position_ofCell_injective heq⟩)
      · exact hfresh other (List.mem_cons_of_mem c hother) hmem
    obtain ⟨after, hfold, hget⟩ := ih ⟨draft.display.set c.1.1 c.1.2 c.2, _⟩ hnodup hrest
    refine ⟨after, ?_, ?_⟩
    · rw [List.map_cons, List.foldlM_cons, hadd]
      exact hfold
    · intro line column
      rw [hget, Grid.get_set, List.lookup_cons]
      -- no later cell changes the position of `c` again
      by_cases hp : (line, column) = c.1
      · have hnone : cells.lookup (line, column) = none := by
          rw [List.lookup_eq_none_iff]
          intro other hother
          rw [hp, bne_iff_ne]
          intro heq
          exact hc (List.mem_map.mpr ⟨other, hother, heq.symm⟩)
        rw [hnone, hp, beq_self_eq_true, if_pos ⟨congrArg Prod.fst hp, congrArg Prod.snd hp⟩]
        rfl
      · rw [beq_eq_false_iff_ne.mpr hp, if_neg fun h => hp (Prod.ext h.1 h.2)]

end Draft

/-! ## Displays -/

namespace Display

theorem nodup_inked (d : Display) : (d.inked.map (·.1)).Nodup := by
  have hcells : d.cells.map (·.1) = Grid.positions lcdLines lcdColumns := by
    rw [cells, List.map_map]
    exact List.map_id _
  exact (List.filter_sublist.map _).nodup (hcells ▸ Grid.nodup_positions)

/-- What is not listed is blank. -/
theorem lookup_inked (d : Display) (line : Fin lcdLines) (column : Fin lcdColumns) :
    (d.inked.lookup (line, column)).getD Bitmap.blank = d.get line column := by
  by_cases hblank : d.get line column = Bitmap.blank
  · have hnone : d.inked.lookup (line, column) = none := by
      rw [List.lookup_eq_none_iff]
      intro c hc
      obtain ⟨hcell, hne⟩ := mem_inked.mp hc
      rw [bne_iff_ne]
      intro heq
      rw [← heq] at hcell
      exact hne (hcell.trans hblank)
    rw [hnone, hblank]
    rfl
  · have hsome : d.inked.lookup (line, column) = some (d.get line column) :=
      lookup_eq_some_of_unique (mem_inked.mpr ⟨rfl, hblank⟩) fun b hb => (mem_inked.mp hb).1
    rw [hsome]
    rfl

end Display

namespace DesignFile

/-- A file that lists cells at different positions describes the display that has these cells, as
far as its interval is allowed. -/
theorem toDisplay_map_ofCell {d : Display} {o : Options} (h : 0 < o.intervalMs)
    {cells : List ((Fin lcdLines × Fin lcdColumns) × Bitmap)} (hnodup : (cells.map (·.1)).Nodup)
    (hcells : ∀ line column,
      (cells.lookup (line, column)).getD Bitmap.blank = d.get line column) :
    toDisplay ⟨o, cells.map .ofCell⟩ = .ok (d, o) := by
  -- the cells that are not listed are blank, as they are in the draft at the beginning
  have hinterval : o.intervalMs ≠ 0 := fun hzero => absurd (hzero ▸ h) (by decide)
  obtain ⟨after, hfold, hget⟩ := Draft.foldlM_add cells .empty hnodup fun _ _ => List.not_mem_nil
  have hdisplay : after.display = d := by
    apply Grid.ext_get
    intro line column
    rw [hget, Draft.empty, Display.get_blank, hcells]
  rw [toDisplay, if_neg hinterval, hfold]
  exact congrArg (fun display => Except.ok (display, o)) hdisplay

/-- The file of a display describes the display. -/
theorem toDisplay_ofDisplay (d : Display) {o : Options} (h : 0 < o.intervalMs) :
    (ofDisplay d o).toDisplay = .ok (d, o) :=
  toDisplay_map_ofCell h d.nodup_inked d.lookup_inked

/-- A file that describes a display has an interval that is not zero. -/
theorem intervalMs_pos {f : DesignFile} {d : Display} {o : Options}
    (h : f.toDisplay = .ok (d, o)) : 0 < o.intervalMs := by
  unfold toDisplay at h
  split at h
  next => cases h
  next hinterval =>
    split at h
    next => cases h
    next =>
      cases h
      exact UInt32.pos_iff_ne_zero.mpr hinterval

end DesignFile

/-! ## Texts -/

/-- A text is a design file that describes a display with options. -/
def Denotes (text : String) (d : Display) (o : Options) : Prop :=
  ∃ f, DesignFile.parse text = .ok f ∧ f.toDisplay = .ok (d, o)

/-- The text that is saved for a display with options. -/
def savedText (d : Display) (o : Options) : String := (DesignFile.ofDisplay d o).text

/-- A text describes one display with one set of options only. -/
theorem Denotes.unique {text : String} {d d' : Display} {o o' : Options} (h : Denotes text d o)
    (h' : Denotes text d' o') : (d, o) = (d', o') := by
  obtain ⟨f, hparse, hdisplay⟩ := h
  obtain ⟨f', hparse', hdisplay'⟩ := h'
  have hfile : f = f' := Except.ok.inj (hparse.symm.trans hparse')
  rw [← hfile] at hdisplay'
  exact Except.ok.inj (hdisplay.symm.trans hdisplay')

theorem parse_savedText (d : Display) (o : Options) :
    DesignFile.parse (savedText d o) = .ok (DesignFile.ofDisplay d o) :=
  DesignFile.parse_text Json.Layout.pretty_isSpace _

theorem denotes_savedText (d : Display) {o : Options} (h : 0 < o.intervalMs) :
    Denotes (savedText d o) d o :=
  ⟨_, parse_savedText d o, DesignFile.toDisplay_ofDisplay d h⟩

/-- Saved texts are a canonical form of the texts that describe a display with
options: what is saved describes the same, saving it again changes nothing, and
two texts describe the same if and only if the same is saved for both. -/
theorem saved_canonical :
    (∀ d o, 0 < o.intervalMs → Denotes (savedText d o) d o) ∧
    (∀ text d o, Denotes text d o →
      Denotes (savedText d o) d o ∧
      (∀ f, DesignFile.parse (savedText d o) = .ok f → f.text = savedText d o) ∧
      (∀ d' o', Denotes (savedText d o) d' o' → savedText d' o' = savedText d o)) ∧
    (∀ text text' d d' o o', Denotes text d o → Denotes text' d' o' →
      ((d, o) = (d', o') ↔ savedText d o = savedText d' o')) := by
  have hsaved : ∀ text d o, Denotes text d o → Denotes (savedText d o) d o := by
    rintro text d o ⟨f, -, hdisplay⟩
    exact denotes_savedText d (DesignFile.intervalMs_pos hdisplay)
  refine ⟨fun d o => denotes_savedText d, ?_, ?_⟩
  · intro text d o h
    refine ⟨hsaved text d o h, ?_, ?_⟩
    · intro f hparse
      rw [parse_savedText] at hparse
      rw [← Except.ok.inj hparse]
      rfl
    · intro d' o' h'
      obtain ⟨rfl, rfl⟩ := Prod.mk.inj ((hsaved text d o h).unique h')
      rfl
  · intro text text' d d' o o' h h'
    constructor
    · intro heq
      obtain ⟨rfl, rfl⟩ := Prod.mk.inj heq
      rfl
    · intro heq
      have hsame := hsaved text' d' o' h'
      rw [← heq] at hsame
      exact (hsaved text d o h).unique hsame

/-- Cells before options and not in scan order, with a blank one among them; the last cell and the
options as lists, and rows in several notations. -/
theorem saved_canonical_mixed_cells :
    let stripes : Bitmap := Grid.ofFn fun _ column => column.val % 2 = 0
    let full : Bitmap := Grid.replicate true
    let d := (Display.blank.set 0 0 full).set 1 15 stripes
    let o : Options := { transmission := .i2c }
    let rows : List Json.Tree := [
      .array [.bool true, .bool false, .bool true, .bool false, .bool true],
      .array [.number 1, .number 0, .number 255, .number 0, .bool true],
      .string "x.X01", .string "1 # X"] ++ List.replicate 4 (.string "#.#.#")
    let mixed : Json.Tree := .object [
      ("cells", .array [
        .object [("rows", .array rows), ("column", .number 15), ("line", .number 1)],
        .object [("line", .number 0), ("column", .number 3),
          ("rows", .array (List.replicate 8 (.string ".....")))],
        .array [.number 0, .number 0, .array (List.replicate 8 (.string "#####"))]]),
      ("options", .array [.string "i2c", .string "hex", .bool false])]
    Denotes (mixed.text .pretty) d o ∧ Denotes (savedText d o) d o := by
  intro stripes full d o rows mixed
  let cells : List ((Fin lcdLines × Fin lcdColumns) × Bitmap) :=
    [((1, 15), stripes), ((0, 3), Bitmap.blank), ((0, 0), full)]
  have hread : designRecord.read mixed.value = .ok ⟨o, cells.map .ofCell⟩ := rfl
  have hnodup : (cells.map (·.1)).Nodup := by decide
  have hcells : ∀ line column,
      (cells.lookup (line, column)).getD Bitmap.blank = d.get line column := by
    intro line column
    rw [Grid.get_set, Grid.get_set, Display.get_blank]
    grind
  have htext := Json.spells_text Json.Layout.pretty_isSpace mixed
  have h : Denotes (mixed.text .pretty) d o :=
    ⟨_, (Reader.document_of_spells _ htext).trans hread,
      DesignFile.toDisplay_map_ofCell (by decide) hnodup hcells⟩
  exact ⟨h, (saved_canonical.2.1 _ _ _ h).1⟩

end CharLcd
