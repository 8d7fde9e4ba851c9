import CharLcd.Proofs.Design.Options

/-!
# Design files are read as they were written

Any design, whether or not it describes a display, is read back from its text.

- `readRow_rowText`, `read_cell`: the parts of a design.
- `DesignFile.parse_text`: the whole of it, whatever the layout; `DesignFile.parse_written`
  for the two layouts that are written.
-/

namespace CharLcd

open Json Reader

/-! ## Cells -/

theorem readRow_rowText (row : List Bool) :
    readRow (Tree.string (rowText row)).value = .ok row := by
  have hpixel : ∀ on ∈ row, readPixel (if on then '#' else '.') = pure (id on) := by
    intro on _
    cases on <;> rfl
  rw [Tree.value, readRow, rowText, String.toList_ofList, List.mapM_map]
  exact (mapM_eq_pure_map hpixel).trans (congrArg Except.ok (List.map_id row))

theorem readIndex_toDigits (n : UInt64) :
    readIndex (.number (Nat.toDigits 10 n.toNat)) = .ok n := by
  have hread : natural (UInt64.size - 1) "usize" (.number (Nat.toDigits 10 n.toNat)) =
      .ok n.toNat :=
    natural_toDigits "usize" (Nat.le_pred_of_lt n.toNat_lt) (by decide)
  rw [readIndex, hread]
  exact congrArg Except.ok UInt64.ofNat_toNat

theorem read_rows (rows : List (List Bool)) :
    listOf readRow (.array (itemsValues (rows.map fun row => .string (rowText row))) .closed) =
      .ok rows := by
  rw [itemsValues_eq_map, List.map_map]
  exact listOf_map fun row _ => readRow_rowText row

theorem read_cell (c : CellSource) : cellRecord.read c.tree.value = .ok c := by
  simp only [CellSource.tree, Tree.value, membersValues, Record.read, Record.readMembers]
  rw [Record.foldlM_readMember ⟨c.line, 0, []⟩ rfl List.not_mem_nil,
    Record.foldlM_readMember ⟨c.line, c.column, []⟩ rfl (by decide),
    Record.foldlM_readMember c rfl (by decide)]
  · rfl
  · exact bind_eq_of_ok (read_rows c.rows) _
  · exact bind_eq_of_ok (readIndex_toDigits c.column) _
  · exact bind_eq_of_ok (readIndex_toDigits c.line) _

theorem read_cells (cells : List CellSource) :
    listOf cellRecord.read (.array (itemsValues (cells.map CellSource.tree)) .closed) =
      .ok cells := by
  rw [itemsValues_eq_map, List.map_map]
  exact listOf_map fun c _ => read_cell c

/-! ## Files -/

theorem read_design (f : DesignFile) : designRecord.read f.tree.value = .ok f := by
  simp only [DesignFile.tree, Tree.value, membersValues, Record.read, Record.readMembers]
  rw [Record.foldlM_readMember { options := f.options } rfl List.not_mem_nil,
    Record.foldlM_readMember f rfl (by decide)]
  · rfl
  · exact bind_eq_of_ok (read_cells f.cells) _
  · exact bind_eq_of_ok (read_options f.options) _

/-- A design is read back from its text, whatever space the layout adds. -/
theorem DesignFile.parse_text {l : Json.Layout} (hl : l.IsSpace) (f : DesignFile) :
    DesignFile.parse (f.tree.text l) = .ok f := by
  rw [DesignFile.parse, document_of_spells _ (spells_text hl f.tree)]
  exact read_design f

/-- No design is lost in writing: it is read back from its text on one line and from its text in
lines. It need not describe a display; its cells may come in any order, twice or far outside the
display, with rows of any number and length, and its interval may be zero. -/
theorem DesignFile.parse_written (f : DesignFile) :
    DesignFile.parse f.compactText = .ok f ∧ DesignFile.parse f.text = .ok f :=
  ⟨parse_text Layout.compact_isSpace f, parse_text Layout.pretty_isSpace f⟩

end CharLcd
