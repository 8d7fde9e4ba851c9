import CharLcd.Proofs.Design.Canonical

/-!
# The check of a design file

A design file describes a display if and only if nothing is wrong with it, and otherwise the check
reports the first thing that is.

- `CellSource.Irregular`, `CellSource.Faulty`: what is wrong with the rows of a cell, and with a
  cell that comes after some others. The order of the checks is in the conditions.
- `CellSource.Sound`, `DesignFile.WellFormed`: cells and files with nothing wrong.
- `Display.Depicts`: a display that holds the listed cells and nothing else.
- `Draft.Holds`: what is known of a draft when some cells have been added; `Draft.Holds.add` and
  `Draft.Holds.foldlM` go on from there.
- `DesignFile.accepts_or_reports_first`: which files are accepted, what they describe, and which
  flaw is reported of the others.
-/

namespace CharLcd

/-! ## Bitmaps -/

/-- Eight rows of five pixels are the rows of their bitmap. -/
theorem Bitmap.rows_ofRows {rows : List (List Bool)} (hheight : rows.length = glyphRows)
    (hwidth : ∀ row ∈ rows, row.length = glyphColumns) : (ofRows rows).rows = rows := by
  refine List.ext_getElem ((ofRows rows).length_rows.trans hheight.symm) fun i hi hi' => ?_
  have hrow : i < glyphRows := hheight ▸ hi'
  have hlength : rows[i].length = glyphColumns := hwidth _ (List.getElem_mem hi')
  refine List.ext_getElem ?_ fun j hj hj' => ?_
  · rw [Bitmap.length_of_mem_rows (List.getElem_mem hi), hlength]
  · simp [Bitmap.rows, ofRows, Grid.ofFn, hi', hj']

theorem firstBadRow_append {above below : List (List Bool)} {row : List Bool}
    (habove : ∀ r ∈ above, r.length = glyphColumns) (hrow : row.length ≠ glyphColumns)
    (index : Nat) : firstBadRow index (above ++ row :: below) =
      some (.rowLength (index + above.length) row.length) := by
  induction above generalizing index with
  | nil =>
    rw [List.nil_append, firstBadRow, if_neg hrow]
    rfl
  | cons r above ih =>
    rw [List.cons_append, firstBadRow, if_pos (habove r List.mem_cons_self),
      ih (fun s hs => habove s (List.mem_cons_of_mem r hs)), List.length_cons]
    congr 2
    omega

/-- Unless all rows have five pixels there is a first one that has not. -/
theorem exists_first_bad_row (rows : List (List Bool)) :
    (∀ row ∈ rows, row.length = glyphColumns) ∨
      ∃ above row below, rows = above ++ row :: below ∧
        (∀ r ∈ above, r.length = glyphColumns) ∧ row.length ≠ glyphColumns := by
  induction rows with
  | nil => exact .inl nofun
  | cons row rows ih =>
    by_cases hrow : row.length = glyphColumns
    · rcases ih with hall | ⟨above, bad, below, rfl, habove, hbad⟩
      · exact .inl (List.forall_mem_cons.mpr ⟨hrow, hall⟩)
      · exact .inr ⟨row :: above, bad, below, rfl, List.forall_mem_cons.mpr ⟨hrow, habove⟩, hbad⟩
    · exact .inr ⟨[], row, rows, rfl, nofun, hrow⟩

/-! ## Cells -/

namespace CellSource

/-- The position of a cell is on the display. -/
abbrev Inside (c : CellSource) : Prop := c.line.toNat < lcdLines ∧ c.column.toNat < lcdColumns

/-- Eight rows of five pixels. -/
structure Regular (c : CellSource) : Prop where
  height : c.rows.length = glyphRows
  width : ∀ row ∈ c.rows, row.length = glyphColumns

/-- What is wrong with the rows of a cell. -/
inductive Irregular (c : CellSource) : BitmapFlaw → Prop where
  | rowCount (h : c.rows.length ≠ glyphRows) : Irregular c (.rowCount c.rows.length)
  /-- The first row that has not five pixels. -/
  | rowLength {above below : List (List Bool)} {row : List Bool}
      (hheight : c.rows.length = glyphRows) (hrows : c.rows = above ++ row :: below)
      (habove : ∀ r ∈ above, r.length = glyphColumns) (h : row.length ≠ glyphColumns) :
      Irregular c (.rowLength above.length row.length)

/-- What is wrong with a cell that comes after some others. -/
inductive Faulty (earlier : List CellSource) (c : CellSource) : DesignFlaw → Prop where
  | outside (h : ¬ c.Inside) : Faulty earlier c (.outside c.line c.column)
  | duplicate (hinside : c.Inside) (h : ∃ e ∈ earlier, e.position = c.position) :
      Faulty earlier c (.duplicate c.line c.column)
  | bitmap (hinside : c.Inside) (hfresh : ¬ ∃ e ∈ earlier, e.position = c.position)
      {flaw : BitmapFlaw} (h : c.Irregular flaw) : Faulty earlier c (.bitmap c.line c.column flaw)

/-- Cells on the display, no two of them at one position, each with eight rows of five pixels. -/
structure Sound (cells : List CellSource) : Prop where
  inside : ∀ c ∈ cells, c.Inside
  distinct : cells.Pairwise (·.position ≠ ·.position)
  regular : ∀ c ∈ cells, c.Regular

variable {c : CellSource}

theorem position_eq_iff {c' : CellSource} :
    c.position = c'.position ↔ c.line.toNat = c'.line.toNat ∧ c.column.toNat = c'.column.toNat := by
  rw [UInt64.toNat_inj, UInt64.toNat_inj]
  exact Prod.ext_iff

theorem Regular.toBitmap_eq (h : c.Regular) : c.toBitmap = .ok (Bitmap.ofRows c.rows) := by
  rw [toBitmap, if_neg (not_not_intro h.height), firstBadRow_eq_none h.width]

theorem Irregular.toBitmap_eq {flaw : BitmapFlaw} (h : c.Irregular flaw) :
    c.toBitmap = .error flaw := by
  cases h with
  | rowCount h => rw [toBitmap, if_pos h]
  | rowLength hheight hrows habove h =>
    rw [toBitmap, if_neg (not_not_intro hheight), hrows, firstBadRow_append habove h,
      Nat.zero_add]

theorem regular_or_irregular (c : CellSource) : c.Regular ∨ ∃ flaw, c.Irregular flaw := by
  by_cases hheight : c.rows.length = glyphRows
  · rcases exists_first_bad_row c.rows with hwidth | ⟨above, row, below, hrows, habove, hrow⟩
    · exact .inl ⟨hheight, hwidth⟩
    · exact .inr ⟨_, .rowLength hheight hrows habove hrow⟩
  · exact .inr ⟨_, .rowCount hheight⟩

theorem Regular.not_irregular (h : c.Regular) (flaw : BitmapFlaw) : ¬ c.Irregular flaw := by
  intro hirregular
  cases h.toBitmap_eq.symm.trans hirregular.toBitmap_eq

/-- Among sound cells none is at fault. -/
theorem Sound.not_faulty {cells before after : List CellSource} (h : Sound cells)
    (hsplit : cells = before ++ c :: after) (flaw : DesignFlaw) : ¬ c.Faulty before flaw := by
  subst hsplit
  have hc : c ∈ before ++ c :: after := List.mem_append_right before List.mem_cons_self
  intro hfaulty
  cases hfaulty with
  | outside hout => exact hout (h.inside c hc)
  | duplicate _ hgiven =>
    obtain ⟨e, he, hposition⟩ := hgiven
    exact (List.pairwise_append.mp h.distinct).2.2 e he c List.mem_cons_self hposition
  | bitmap _ _ hirregular => exact (h.regular c hc).not_irregular _ hirregular

theorem Sound.concat {earlier : List CellSource} (h : Sound earlier) (hinside : c.Inside)
    (hfresh : ¬ ∃ e ∈ earlier, e.position = c.position) (hregular : c.Regular) :
    Sound (earlier ++ [c]) where
  inside := List.forall_mem_append.mpr ⟨h.inside, List.forall_mem_singleton.mpr hinside⟩
  distinct := by
    refine List.pairwise_append.mpr ⟨h.distinct, List.pairwise_singleton _ c, fun e he d hd => ?_⟩
    obtain rfl := List.mem_singleton.mp hd
    exact fun hposition => hfresh ⟨e, he, hposition⟩
  regular := List.forall_mem_append.mpr ⟨h.regular, List.forall_mem_singleton.mpr hregular⟩

theorem Sound.perm {cells cells' : List CellSource} (h : Sound cells) (hperm : cells.Perm cells') :
    Sound cells' where
  inside c hc := h.inside c (hperm.mem_iff.mpr hc)
  distinct := (hperm.pairwise_iff fun h => h.symm).mp h.distinct
  regular c hc := h.regular c (hperm.mem_iff.mpr hc)

end CellSource

open CellSource

/-! ## Displays -/

namespace Display

/-- A display holds the listed cells, and what is not listed is blank. -/
structure Depicts (d : Display) (cells : List CellSource) : Prop where
  listed : ∀ c ∈ cells, (d.get? c.line.toNat c.column.toNat).map Bitmap.rows = some c.rows
  blank : ∀ line column,
    (¬ ∃ c ∈ cells, c.line.toNat = line.val ∧ c.column.toNat = column.val) →
      d.get line column = Bitmap.blank

namespace Depicts

variable {d d' : Display} {cells cells' : List CellSource}

theorem of_mem_iff (h : d.Depicts cells) (hmem : ∀ c, c ∈ cells' ↔ c ∈ cells) :
    d.Depicts cells' where
  listed c hc := h.listed c ((hmem c).mp hc)
  blank line column hnone := by
    refine h.blank line column ?_
    rintro ⟨c, hc, hposition⟩
    exact hnone ⟨c, (hmem c).mpr hc, hposition⟩

/-- Cells describe one display only. -/
theorem unique (h : d.Depicts cells) (h' : d'.Depicts cells) : d = d' := by
  apply Grid.ext_get
  intro line column
  by_cases hlisted : ∃ c ∈ cells, c.line.toNat = line.val ∧ c.column.toNat = column.val
  · obtain ⟨c, hc, hline, hcolumn⟩ := hlisted
    have hrows := h.listed c hc
    have hrows' := h'.listed c hc
    rw [hline, hcolumn, Grid.get?_fin, Option.map_some] at hrows hrows'
    have hsame : (d.get line column).rows = (d'.get line column).rows :=
      Option.some.inj (hrows.trans hrows'.symm)
    rw [← Bitmap.ofRows_rows (d.get line column), hsame, Bitmap.ofRows_rows]
  · rw [h.blank line column hlisted, h'.blank line column hlisted]

/-- A regular cell at a position that is not listed can be put there. -/
theorem set (h : d.Depicts cells) {c : CellSource} (hinside : c.Inside)
    (hfresh : ¬ ∃ e ∈ cells, e.position = c.position) (hregular : c.Regular) :
    Depicts (Grid.set d ⟨_, hinside.1⟩ ⟨_, hinside.2⟩ (Bitmap.ofRows c.rows)) (cells ++ [c]) where
  listed := by
    refine List.forall_mem_append.mpr ⟨fun e he => ?_, List.forall_mem_singleton.mpr ?_⟩
    · obtain ⟨b, hb, hrows⟩ := Option.map_eq_some_iff.mp (h.listed e he)
      obtain ⟨hline, hcolumn, hget⟩ := Grid.get?_eq_some_iff.mp hb
      have helsewhere : ¬ (e.line.toNat = c.line.toNat ∧ e.column.toNat = c.column.toNat) :=
        fun hsame => hfresh ⟨e, he, position_eq_iff.mpr hsame⟩
      rw [Grid.get?, dif_pos ⟨hline, hcolumn⟩, Grid.get_set, if_neg (by simpa using helsewhere),
        hget, Option.map_some, hrows]
    · rw [Grid.get?, dif_pos hinside, Grid.get_set_self, Option.map_some,
        Bitmap.rows_ofRows hregular.height hregular.width]
  blank line column hnone := by
    have helsewhere : ¬ (c.line.toNat = line.val ∧ c.column.toNat = column.val) := fun hsame =>
      hnone ⟨c, List.mem_append_right cells (List.mem_singleton_self c), hsame⟩
    rw [Grid.get_set, if_neg]
    · refine h.blank line column ?_
      rintro ⟨e, he, hposition⟩
      exact hnone ⟨e, List.mem_append_left [c] he, hposition⟩
    · rintro ⟨rfl, rfl⟩
      exact helsewhere ⟨rfl, rfl⟩

end Depicts

end Display

/-! ## Drafts -/

/-- A draft to which some cells have been added. -/
structure Draft.Holds (draft : Draft) (cells : List CellSource) : Prop where
  sound : Sound cells
  mem_given : ∀ p, p ∈ draft.given ↔ ∃ c ∈ cells, c.position = p
  depicts : draft.display.Depicts cells

namespace Draft

theorem holds_empty : empty.Holds [] where
  sound := ⟨nofun, List.Pairwise.nil, nofun⟩
  mem_given p := iff_of_false List.not_mem_nil (by rintro ⟨c, hc, -⟩; cases hc)
  depicts := ⟨nofun, fun line column _ => Display.get_blank line column⟩

namespace Holds

variable {draft : Draft} {earlier : List CellSource} {c : CellSource}

/-- A cell with nothing wrong is added. -/
theorem exists_add_eq_ok (h : draft.Holds earlier) (hinside : c.Inside)
    (hfresh : ¬ ∃ e ∈ earlier, e.position = c.position) (hregular : c.Regular) :
    ∃ after, draft.add c = .ok after ∧ after.Holds (earlier ++ [c]) := by
  have hmem : (c.line, c.column) ∉ draft.given := fun hmem => hfresh ((h.mem_given _).mp hmem)
  refine ⟨⟨Grid.set draft.display ⟨_, hinside.1⟩ ⟨_, hinside.2⟩ (Bitmap.ofRows c.rows),
    c.position :: draft.given⟩, ?_, h.sound.concat hinside hfresh hregular, ?_,
    h.depicts.set hinside hfresh hregular⟩
  · rw [add, dif_pos hinside, if_neg hmem, hregular.toBitmap_eq]
    rfl
  · intro p
    simp only [List.mem_cons, h.mem_given, List.mem_append, or_and_right, exists_or,
      exists_eq_left, List.not_mem_nil, or_false]
    rw [or_comm, eq_comm]

theorem add_eq_error (h : draft.Holds earlier) {flaw : DesignFlaw}
    (hfaulty : c.Faulty earlier flaw) : draft.add c = .error flaw := by
  cases hfaulty with
  | outside hout => rw [add, dif_neg hout]
  | duplicate hinside hgiven =>
    have hmem : (c.line, c.column) ∈ draft.given := (h.mem_given _).mpr hgiven
    rw [add, dif_pos hinside, if_pos hmem]
  | bitmap hinside hfresh hirregular =>
    have hmem : (c.line, c.column) ∉ draft.given := fun hmem => hfresh ((h.mem_given _).mp hmem)
    rw [add, dif_pos hinside, if_neg hmem, hirregular.toBitmap_eq]

theorem add (h : draft.Holds earlier) (c : CellSource) :
    (∃ after, draft.add c = .ok after ∧ after.Holds (earlier ++ [c])) ∨
      ∃ flaw, draft.add c = .error flaw ∧ c.Faulty earlier flaw := by
  by_cases hinside : c.Inside
  · by_cases hfresh : ∃ e ∈ earlier, e.position = c.position
    · have hfaulty := Faulty.duplicate hinside hfresh
      exact .inr ⟨_, h.add_eq_error hfaulty, hfaulty⟩
    · rcases c.regular_or_irregular with hregular | ⟨flaw, hirregular⟩
      · exact .inl (h.exists_add_eq_ok hinside hfresh hregular)
      · have hfaulty := Faulty.bitmap hinside hfresh hirregular
        exact .inr ⟨_, h.add_eq_error hfaulty, hfaulty⟩
  · have hfaulty : c.Faulty earlier _ := .outside hinside
    exact .inr ⟨_, h.add_eq_error hfaulty, hfaulty⟩

/-- Cells are added one after the other up to the first that is at fault. -/
theorem foldlM (h : draft.Holds earlier) (cells : List CellSource) :
    (∃ after, cells.foldlM Draft.add draft = .ok after ∧ after.Holds (earlier ++ cells)) ∨
      ∃ before c rest flaw, cells = before ++ c :: rest ∧
        cells.foldlM Draft.add draft = .error flaw ∧
        Sound (earlier ++ before) ∧ c.Faulty (earlier ++ before) flaw := by
  induction cells generalizing draft earlier with
  | nil => exact .inl ⟨draft, rfl, (List.append_nil earlier).symm ▸ h⟩
  | cons c cells ih =>
    rw [List.foldlM_cons]
    rcases h.add c with ⟨next, hadd, hnext⟩ | ⟨flaw, hadd, hfaulty⟩
    · rw [hadd]
      rcases ih hnext with ⟨after, hfold, hafter⟩ |
        ⟨before, c', rest, flaw, rfl, hfold, hsound, hfaulty⟩
      · rw [List.append_assoc] at hafter
        exact .inl ⟨after, hfold, hafter⟩
      · rw [List.append_assoc] at hsound hfaulty
        exact .inr ⟨c :: before, c', rest, flaw, rfl, hfold, hsound, hfaulty⟩
    · rw [hadd]
      refine .inr ⟨[], c, cells, flaw, rfl, rfl, ?_, ?_⟩
      · rw [List.append_nil]
        exact h.sound
      · rw [List.append_nil]
        exact hfaulty

end Holds

end Draft

/-! ## Files -/

/-- A flaw of the first cell that is at fault. -/
def FirstFlaw (cells : List CellSource) (flaw : DesignFlaw) : Prop :=
  ∃ before c rest, cells = before ++ c :: rest ∧ c.Faulty before flaw ∧
    ∀ first d others, before = first ++ d :: others → ∀ other, ¬ d.Faulty first other

theorem FirstFlaw.not_sound {cells : List CellSource} {flaw : DesignFlaw}
    (h : FirstFlaw cells flaw) : ¬ Sound cells := by
  obtain ⟨before, c, rest, hsplit, hfaulty, -⟩ := h
  exact fun hsound => hsound.not_faulty hsplit flaw hfaulty

namespace DesignFile

/-- A file with a positive interval and sound cells. -/
structure WellFormed (f : DesignFile) : Prop where
  interval_pos : 0 < f.options.intervalMs
  sound : Sound f.cells

theorem foldlM_add_eq_error {cells : List CellSource} {flaw : DesignFlaw}
    (h : FirstFlaw cells flaw) : cells.foldlM Draft.add .empty = .error flaw := by
  obtain ⟨before, c, rest, rfl, hfaulty, hfirst⟩ := h
  rw [List.foldlM_append]
  rcases Draft.holds_empty.foldlM before with ⟨draft, hfold, hdraft⟩ |
    ⟨first, d, others, other, hsplit, -, -, hd⟩
  · rw [hfold]
    show (c :: rest).foldlM Draft.add draft = _
    rw [List.foldlM_cons, hdraft.add_eq_error hfaulty]
    rfl
  · exact absurd hd (hfirst first d others hsplit other)

/-- With a positive interval the cells decide. -/
theorem toDisplay_cases {f : DesignFile} (h : f.options.intervalMs ≠ 0) :
    (∃ d, f.toDisplay = .ok (d, f.options) ∧ Sound f.cells ∧ d.Depicts f.cells) ∨
      ∃ flaw, f.toDisplay = .error flaw ∧ FirstFlaw f.cells flaw := by
  rw [toDisplay, if_neg h]
  rcases Draft.holds_empty.foldlM f.cells with ⟨draft, hfold, hdraft⟩ |
    ⟨before, c, rest, flaw, hsplit, hfold, hsound, hfaulty⟩
  · rw [hfold]
    exact .inl ⟨draft.display, rfl, hdraft.sound, hdraft.depicts⟩
  · rw [hfold]
    exact .inr ⟨flaw, rfl, before, c, rest, hsplit, hfaulty, fun _ _ _ => hsound.not_faulty⟩

theorem toDisplay_of_zero {f : DesignFile} (h : f.options.intervalMs = 0) :
    f.toDisplay = .error .zeroInterval :=
  if_pos h

theorem toDisplay_eq_ok_iff {f : DesignFile} {d : Display} {o : Options} :
    f.toDisplay = .ok (d, o) ↔ f.WellFormed ∧ o = f.options ∧ d.Depicts f.cells := by
  constructor
  · intro hok
    by_cases hzero : f.options.intervalMs = 0
    · cases (toDisplay_of_zero hzero).symm.trans hok
    · rcases toDisplay_cases hzero with ⟨d', hok', hsound, hdepicts⟩ | ⟨flaw, herror, -⟩
      · cases hok'.symm.trans hok
        exact ⟨⟨UInt32.pos_iff_ne_zero.mpr hzero, hsound⟩, rfl, hdepicts⟩
      · cases herror.symm.trans hok
  · rintro ⟨hwell, rfl, hdepicts⟩
    rcases toDisplay_cases (UInt32.pos_iff_ne_zero.mp hwell.interval_pos) with
      ⟨d', hok, -, hdepicts'⟩ | ⟨flaw, -, hflaw⟩
    · rw [hok, hdepicts'.unique hdepicts]
    · exact absurd hwell.sound hflaw.not_sound

theorem toDisplay_eq_error_iff {f : DesignFile} {flaw : DesignFlaw} :
    f.toDisplay = .error flaw ↔
      f.options.intervalMs = 0 ∧ flaw = .zeroInterval ∨
        f.options.intervalMs ≠ 0 ∧ FirstFlaw f.cells flaw := by
  by_cases hzero : f.options.intervalMs = 0
  · rw [toDisplay_of_zero hzero]
    simp only [hzero, Except.error.injEq, eq_comm, true_and, ne_eq, not_true, false_and, or_false]
  · simp only [hzero, false_and, false_or, ne_eq, not_false_eq_true, true_and]
    constructor
    · intro herror
      rcases toDisplay_cases hzero with ⟨d, hok, -⟩ | ⟨other, herror', hflaw⟩
      · cases hok.symm.trans herror
      · cases herror'.symm.trans herror
        exact hflaw
    · intro hflaw
      rw [toDisplay, if_neg hzero, foldlM_add_eq_error hflaw]

/-- A file is accepted if and only if its interval is not zero and its cells are on the display,
no two at one position, each with eight rows of five pixels. Its options are kept then, and the
display holds the listed cells and no others, so that their order does not matter. Of any other file
a zero interval is reported, or else what is wrong with the first cell that is at fault: where it is
before where others are, blank ones among them, that before how many rows it has, and that before
the first of its rows that has not five pixels. -/
theorem accepts_or_reports_first (f : DesignFile) :
    ((∃ d o, f.toDisplay = .ok (d, o)) ↔ f.WellFormed) ∧
      (∀ d o, f.toDisplay = .ok (d, o) → o = f.options ∧ d.Depicts f.cells ∧
        ∀ cells, f.cells.Perm cells → toDisplay { f with cells } = .ok (d, o)) ∧
      ∀ flaw, f.toDisplay = .error flaw ↔
        f.options.intervalMs = 0 ∧ flaw = .zeroInterval ∨
          f.options.intervalMs ≠ 0 ∧ FirstFlaw f.cells flaw := by
  refine ⟨⟨?_, ?_⟩, ?_, fun flaw => toDisplay_eq_error_iff⟩
  · rintro ⟨d, o, hok⟩
    exact (toDisplay_eq_ok_iff.mp hok).1
  · intro hwell
    rcases toDisplay_cases (UInt32.pos_iff_ne_zero.mp hwell.interval_pos) with
      ⟨d, hok, -⟩ | ⟨flaw, -, hflaw⟩
    · exact ⟨d, f.options, hok⟩
    · exact absurd hwell.sound hflaw.not_sound
  · intro d o hok
    obtain ⟨hwell, hoptions, hdepicts⟩ := toDisplay_eq_ok_iff.mp hok
    refine ⟨hoptions, hdepicts, fun cells hperm => toDisplay_eq_ok_iff.mpr ⟨?_, hoptions, ?_⟩⟩
    · exact ⟨hwell.interval_pos, hwell.sound.perm hperm⟩
    · exact hdepicts.of_mem_iff fun c => hperm.mem_iff.symm

/-- A lit cell and a blank one, in either order. -/
theorem accepts_or_reports_first_both_orders :
    let lit : CellSource := ⟨1, 15, List.replicate 8 (List.replicate 5 true)⟩
    let dark : CellSource := ⟨0, 0, Bitmap.blank.rows⟩
    WellFormed { cells := [lit, dark] } ∧ ∃ d o,
      toDisplay { cells := [lit, dark] } = .ok (d, o) ∧
        toDisplay { cells := [dark, lit] } = .ok (d, o) := by
  intro lit dark
  have hwell : WellFormed { cells := [lit, dark] } := by
    refine ⟨by decide, by decide, by decide, ?_⟩
    rw [List.forall_mem_cons, List.forall_mem_singleton]
    exact ⟨⟨by decide, by decide⟩, ⟨by decide, by decide⟩⟩
  obtain ⟨haccepted, hdescribed, -⟩ := accepts_or_reports_first { cells := [lit, dark] }
  obtain ⟨d, o, hok⟩ := haccepted.mpr hwell
  exact ⟨hwell, d, o, hok, (hdescribed d o hok).2.2 [dark, lit] (List.Perm.swap dark lit [])⟩

/-- A blank cell counts among those at its position, and it does not matter that the second cell
there has no rows. -/
example : toDisplay { cells := [⟨1, 15, Bitmap.blank.rows⟩, ⟨1, 15, []⟩, ⟨2, 0, []⟩] } =
    .error (.duplicate 1 15) := by
  decide +kernel

end DesignFile

end CharLcd
