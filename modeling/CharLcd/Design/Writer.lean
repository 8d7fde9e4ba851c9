import CharLcd.Design.Basic
import CharLcd.Json.Tree

/-!
# Writing design files

- `DesignFile.tree`: a design as a JSON tree; the two switches of the options
  are left out when they are off.
- `DesignFile.text`: the text of a file, laid out in lines.
- `DesignFile.compactText`, `Options.compactText`: texts without any space.
-/

namespace CharLcd

open Json

/-- A switch that is written only when it is on. -/
def switch (name : String) (on : Bool) : List (String × Tree) :=
  if on then [(name, .bool true)] else []

/-- The options as a tree. -/
def Options.tree (o : Options) : Tree :=
  .object (
    [("transmission", .string o.transmission.name),
     ("number_format", .string o.numberFormat.name)] ++
    switch "scrolling_enabled" o.scrolling ++
    switch "buffered_scroll" o.buffered ++
    [("scroll_direction", .string o.direction.name),
     ("scroll_interval_ms", .number o.intervalMs.toNat)])

/-- A row of pixels as a string: `#` for a lit pixel and `.` for a dark one. -/
def rowText (row : List Bool) : String :=
  String.ofList (row.map fun on => if on then '#' else '.')

/-- A cell as a tree. -/
def CellSource.tree (c : CellSource) : Tree :=
  .object [
    ("line", .number c.line.toNat),
    ("column", .number c.column.toNat),
    ("rows", .array (c.rows.map fun row => .string (rowText row)))]

/-- A design as a tree. -/
def DesignFile.tree (d : DesignFile) : Tree :=
  .object [("options", d.options.tree), ("cells", .array (d.cells.map CellSource.tree))]

/-- The text of a design file. -/
def DesignFile.text (d : DesignFile) : String := d.tree.text .pretty

/-- A design on one line. -/
def DesignFile.compactText (d : DesignFile) : String := d.tree.text .compact

/-- Options on one line. -/
def Options.compactText (o : Options) : String := o.tree.text .compact

end CharLcd
