import CharLcd.Bitmap

/-!
# The display being designed

Two lines of sixteen character cells. Every cell always holds a complete
bitmap; an unused cell holds the blank one.

- `Display`: the cells.
- `Display.cells`: all cells with their positions, in scan order.
- `Display.inked`: the cells that are not blank, in scan order.
-/

namespace CharLcd

/-- Character lines on the display. -/
abbrev lcdLines : Nat := 2

theorem lcdLines_pos : 0 < lcdLines := by decide

/-- Character columns on each display line. -/
abbrev lcdColumns : Nat := 16

theorem lcdColumns_pos : 0 < lcdColumns := by decide

/-- The whole sixteen by two display. -/
abbrev Display := Grid lcdLines lcdColumns Bitmap

namespace Display

/-- The display with every cell blank. -/
def blank : Display := Grid.replicate Bitmap.blank

@[simp] theorem get_blank (line : Fin lcdLines) (column : Fin lcdColumns) :
    blank.get line column = Bitmap.blank :=
  Grid.get_replicate _ _ _

/-- Whether every cell is blank. -/
def isBlank (d : Display) : Bool :=
  d.toList.all Bitmap.isBlank

/-- A display is blank exactly when it is the blank display. -/
theorem isBlank_iff {d : Display} : d.isBlank = true ↔ d = blank := by
  constructor
  · intro h
    apply Grid.ext_get
    intro line column
    rw [get_blank, ← Bitmap.isBlank_iff]
    exact List.all_eq_true.mp h _ (Grid.mem_toList.mpr ⟨line, column, rfl⟩)
  · rintro rfl
    simp [isBlank, Bitmap.isBlank_iff]

/-- All 32 cells with their positions, in scan order. -/
def cells (d : Display) : List ((Fin lcdLines × Fin lcdColumns) × Bitmap) :=
  (Grid.positions lcdLines lcdColumns).map fun p => (p, d.get p.1 p.2)

/-- The cells that are not blank, in scan order. -/
def inked (d : Display) : List ((Fin lcdLines × Fin lcdColumns) × Bitmap) :=
  d.cells.filter fun c => !c.2.isBlank

end Display

end CharLcd
