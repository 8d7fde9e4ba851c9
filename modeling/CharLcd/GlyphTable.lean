import CharLcd.Display

/-!
# Distinct characters of a display

Cells with the same bitmap share one custom character. The characters are
numbered in the order in which the scan of the display meets them first.

- `GlyphTable`: the distinct characters; a character's index is its place in
  the table.
- `GlyphTable.ofDisplay`: the table of a display.
- `SlotMap` / `GlyphTable.place`: the character index drawn at each position,
  `none` where the cell is blank.
-/

namespace CharLcd

/-- What a character slot shows: the index of a character, or nothing. -/
abbrev Slot := Option Nat

/-- A slot for every position of the display. -/
abbrev SlotMap := Grid lcdLines lcdColumns Slot

/-- Distinct characters, each indexed by its place in the list. -/
structure GlyphTable where
  glyphs : List Bitmap
  deriving DecidableEq, Repr

namespace GlyphTable

/-- The distinct bitmaps among the non-blank cells, in order of first appearance. -/
def ofDisplay (d : Display) : GlyphTable :=
  ⟨(d.inked.map (·.2)).eraseDups⟩

/-- Number of characters. -/
def size (t : GlyphTable) : Nat := t.glyphs.length

/-- The character with an index. -/
def get? (t : GlyphTable) (index : Nat) : Option Bitmap := t.glyphs[index]?

/-- The index of a bitmap, if it is one of the characters. -/
def index? (t : GlyphTable) (b : Bitmap) : Option Nat := t.glyphs.idxOf? b

/-- The bitmap a slot shows; `none` when the slot is empty or names no character. -/
def show? (t : GlyphTable) (slot : Slot) : Option Bitmap := slot.bind t.get?

@[simp] theorem show?_none (t : GlyphTable) : t.show? none = none := rfl

@[simp] theorem show?_some (t : GlyphTable) (index : Nat) : t.show? (some index) = t.get? index :=
  rfl

/-- The character with a bitmap's index is that bitmap. -/
theorem get?_of_index? {t : GlyphTable} {b : Bitmap} {index : Nat} (h : t.index? b = some index) :
    t.get? index = some b := by
  obtain ⟨c, hc, -⟩ := List.findIdx?_eq_some_iff_getElem.mp h
  rw [get?, List.getElem?_eq_getElem c]
  exact congrArg some (eq_of_beq hc)

/-- The index drawn at each position of a display. -/
def place (t : GlyphTable) (d : Display) : SlotMap := d.map t.index?

@[simp] theorem get_place (t : GlyphTable) (d : Display) (line : Fin lcdLines)
    (column : Fin lcdColumns) : (t.place d).get line column = t.index? (d.get line column) :=
  Grid.get_map _ _ _ _

/-- The characters with their indices. -/
def entries (t : GlyphTable) : List (Nat × Bitmap) := t.glyphs.zipIdx.map fun e => (e.2, e.1)

end GlyphTable

namespace SlotMap

/-- The positions that show a character, in scan order, with its index. -/
def occupied (m : SlotMap) : List ((Fin lcdLines × Fin lcdColumns) × Nat) :=
  (Grid.positions lcdLines lcdColumns).filterMap fun p =>
    (m.get p.1 p.2).map fun index => (p, index)

end SlotMap

end CharLcd
