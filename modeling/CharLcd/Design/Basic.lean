import CharLcd.Options

/-!
# Design files

The content of a design file: the options, and the cells that are not blank. A
file may hold anything of this form; only some of it describes a display.

- `CellSource`: a cell as the file lists it.
- `DesignFile`: the whole file.
-/

namespace CharLcd

/-- A cell as a design file lists it: any position, and rows of any number and
length. -/
structure CellSource where
  line : UInt64
  column : UInt64
  rows : List (List Bool)
  deriving DecidableEq, Repr

/-- The content of a design file. -/
structure DesignFile where
  options : Options := {}
  cells : List CellSource := []
  deriving DecidableEq, Repr

end CharLcd
