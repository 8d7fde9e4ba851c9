import CharLcd.Design.Basic
import CharLcd.Reader.Basic

/-!
# Reading design files

- `DesignFile.parse`: the design in the text of a file.
- `Options.parse`: the options in a text that holds nothing else.
- `readRow`: a row of pixels, from a string or from an array.
-/

namespace CharLcd

open Json Reader

/-! ## Options -/

/-- The options, as a record of six fields. -/
def optionsRecord : Record Options where
  name := "struct GenerationOptions"
  start := {}
  fields := [
    { name := "transmission"
      read := fun v o => do
        return { o with transmission := ← choice Transmission.name Transmission.all v } },
    { name := "number_format"
      read := fun v o => do
        return { o with numberFormat := ← choice NumberFormat.name NumberFormat.all v } },
    { name := "scrolling_enabled"
      read := fun v o => do return { o with scrolling := ← flag v } },
    { name := "buffered_scroll"
      read := fun v o => do return { o with buffered := ← flag v } },
    { name := "scroll_direction"
      read := fun v o => do
        return { o with direction := ← choice Direction.name Direction.all v } },
    { name := "scroll_interval_ms"
      read := fun v o => do
        return { o with intervalMs := UInt32.ofNat (← natural (UInt32.size - 1) "u32" v) } }]

/-! ## Rows of pixels -/

/-- Whether a character is a lit pixel, a dark one, or none. -/
def pixelOf? (c : Char) : Option Bool :=
  if c = '#' ∨ c = '1' ∨ c = 'X' ∨ c = 'x' then some true
  else if c = '.' ∨ c = ' ' ∨ c = '0' then some false
  else none

/-- A pixel of a string. -/
def readPixel (c : Char) : Reads Bool :=
  match pixelOf? c with
  | some on => .ok on
  | none => refuse (.invalidPixel c)

/-- How many levels an item of a row may open. -/
def itemDepth : Nat := 122

/-- A pixel of an array: a boolean, or a byte that is zero for a dark pixel. The
item is read as a whole before it is refused. -/
def readPixelItem (v : Value) : Reads Bool := do
  check (v.readFault? itemDepth)
  match v with
  | .bool on => return on
  | .number spelling =>
    match Number.ofSpelling? spelling with
    | some (.integer n) => if 0 ≤ n ∧ n < 256 then return n ≠ 0 else refuse .noPixel
    | _ => refuse .noPixel
  | _ => refuse .noPixel

/-- A row of pixels. -/
def readRow : Value → Reads (List Bool)
  | .string (some s) => s.toList.mapM readPixel
  | .array items ending => listOf readPixelItem (.array items ending)
  | v => .error (.mismatch "a pixel row string like \"#..#.\" or an array of booleans" v)

/-! ## Cells and files -/

/-- A coordinate of a cell. -/
def readIndex (v : Value) : Reads UInt64 :=
  return UInt64.ofNat (← natural (UInt64.size - 1) "usize" v)

/-- A cell, as a record of three fields that must all be there. -/
def cellRecord : Record CellSource where
  name := "struct CellSource"
  start := ⟨0, 0, []⟩
  fields := [
    { name := "line", optional := false
      read := fun v c => do return { c with line := ← readIndex v } },
    { name := "column", optional := false
      read := fun v c => do return { c with column := ← readIndex v } },
    { name := "rows", optional := false
      read := fun v c => do return { c with rows := ← listOf readRow v } }]

/-- A design file, as a record of two fields. -/
def designRecord : Record DesignFile where
  name := "struct DesignFile"
  start := {}
  fields := [
    { name := "options"
      read := fun v d => do return { d with options := ← optionsRecord.read v } },
    { name := "cells"
      read := fun v d => do return { d with cells := ← listOf cellRecord.read v } }]

/-- The options in a text. -/
def Options.parse (text : String) : Reads Options :=
  document optionsRecord.read text

/-- The design in the text of a file. -/
def DesignFile.parse (text : String) : Reads DesignFile :=
  document designRecord.read text

end CharLcd
