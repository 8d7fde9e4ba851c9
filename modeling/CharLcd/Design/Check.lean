import CharLcd.Design.Basic
import CharLcd.Display

/-!
# From design files to displays and back

- `DesignFile.toDisplay`: the display and options that a file describes, or the
  first flaw of the file.
- `DesignFile.ofDisplay`: the file that describes a display.
- `DesignFlaw`: what can be wrong with a file; `DesignFlaw.message` in words.
-/

namespace CharLcd

/-- What is wrong with the rows of a cell. -/
inductive BitmapFlaw where
  | rowCount (found : Nat)
  | rowLength (row found : Nat)
  deriving DecidableEq, Repr

/-- What is wrong with a design file. -/
inductive DesignFlaw where
  | zeroInterval
  | outside (line column : UInt64)
  /-- An earlier cell has the same position. -/
  | duplicate (line column : UInt64)
  | bitmap (line column : UInt64) (flaw : BitmapFlaw)
  deriving DecidableEq, Repr

namespace BitmapFlaw

/-- The flaw in words. -/
def message : BitmapFlaw → String
  | rowCount found => "expected " ++ toString glyphRows ++ " rows, found " ++ toString found
  | rowLength row found =>
    "row " ++ toString row ++ " has " ++ toString found ++ " pixels, expected " ++
      toString glyphColumns

end BitmapFlaw

namespace DesignFlaw

/-- A position in words. -/
def position (line column : UInt64) : String :=
  "(" ++ toString line.toNat ++ ", " ++ toString column.toNat ++ ")"

/-- The flaw in words. -/
def message : DesignFlaw → String
  | zeroInterval => "scroll_interval_ms must be positive"
  | outside line column =>
    "cell " ++ position line column ++ " is outside the " ++ toString lcdColumns ++ "x" ++
      toString lcdLines ++ " display"
  | duplicate line column => "cell " ++ position line column ++ " is defined more than once"
  | bitmap line column flaw =>
    "Invalid bitmap for cell " ++ position line column ++ ": " ++ flaw.message

end DesignFlaw

/-! ## Bitmaps -/

/-- The first row, counting from `row`, that has not five pixels. -/
def firstBadRow (row : Nat) : List (List Bool) → Option BitmapFlaw
  | [] => none
  | pixels :: rest =>
    if pixels.length = glyphColumns then firstBadRow (row + 1) rest
    else some (.rowLength row pixels.length)

/-- The bitmap of a cell, or what is wrong with its rows. -/
def CellSource.toBitmap (c : CellSource) : Except BitmapFlaw Bitmap :=
  if c.rows.length ≠ glyphRows then .error (.rowCount c.rows.length)
  else
    match firstBadRow 0 c.rows with
    | some flaw => .error flaw
    | none => .ok (Bitmap.ofRows c.rows)

/-! ## Files -/

/-- A display under construction, and the positions that have been given. -/
structure Draft where
  display : Display
  given : List (UInt64 × UInt64)

namespace Draft

/-- The draft with no cell given. -/
def empty : Draft := ⟨Display.blank, []⟩

/-- Add a cell. -/
def add (d : Draft) (c : CellSource) : Except DesignFlaw Draft :=
  if h : c.line.toNat < lcdLines ∧ c.column.toNat < lcdColumns then
    if (c.line, c.column) ∈ d.given then .error (.duplicate c.line c.column)
    else
      match c.toBitmap with
      | .error flaw => .error (.bitmap c.line c.column flaw)
      | .ok b => .ok ⟨d.display.set ⟨_, h.1⟩ ⟨_, h.2⟩ b, (c.line, c.column) :: d.given⟩
  else .error (.outside c.line c.column)

end Draft

namespace DesignFile

/-- The display and options that a file describes, or the first flaw of the file. -/
def toDisplay (f : DesignFile) : Except DesignFlaw (Display × Options) :=
  if f.options.intervalMs = 0 then .error .zeroInterval
  else
    match f.cells.foldlM Draft.add Draft.empty with
    | .error flaw => .error flaw
    | .ok d => .ok (d.display, f.options)

/-- The file that describes a display: its cells that are not blank, in scan order. -/
def ofDisplay (d : Display) (o : Options) : DesignFile :=
  { options := o
    cells := d.inked.map fun c =>
      ⟨UInt64.ofNat c.1.1.val, UInt64.ofNat c.1.2.val, c.2.rows⟩ }

end DesignFile

end CharLcd
