import CharLcd.Design.Storage
import CharLcd.Editor.Config
import CharLcd.PathName
import CharLcd.Playback
import CharLcd.Session

/-!
# The state of the editor

An editor works on a session. It has a selected cell, a cursor on the pixels of
that cell, perhaps an open question, and a preview that may be playing.

- `Editor`: the state; `Editor.ofSession` is the one that an editor starts in.
- `Editor.openFile`: an editor on what was found at a path.
- Selection (`selectCell`, `moveCell`, `stepCell`), edits of pixels, cells and
  options, and saving; every edit goes through the session.
-/

namespace CharLcd

-- programs count nanoseconds
attribute [local instance] Clock.nanoseconds

/-- What is done when a question is answered with yes. -/
inductive Question where
  | reset
  /-- Quit although there are unsaved changes. -/
  | quit
  deriving DecidableEq, Repr

/-- The question in words. -/
def Question.message : Question → String
  | reset => "Clear all 32 cells?"
  | quit => "Unsaved changes. Quit anyway?"

/-- What keys mean at the moment. -/
inductive Mode where
  | normal
  /-- A question is open; `yes` says which answer is marked. -/
  | asking (question : Question) (yes : Bool)
  deriving DecidableEq, Repr

/-- The state of the editor. -/
structure Editor where
  session : Session
  path : String
  config : EditorConfig
  line : Fin lcdLines := ⟨0, lcdLines_pos⟩
  column : Fin lcdColumns := ⟨0, lcdColumns_pos⟩
  pixelRow : Fin glyphRows := ⟨0, glyphRows_pos⟩
  pixelColumn : Fin glyphColumns := ⟨0, glyphColumns_pos⟩
  mode : Mode := .normal
  /-- Whether there are changes that have not been saved. -/
  dirty : Bool := false
  /-- The message in the status line. -/
  status : Option String := none
  /-- How many lines of the sketch are scrolled out of its panel. -/
  sketchScroll : Nat := 0
  playback : Playback := .stopped
  /-- The state that pixels are given while the mouse is dragged. -/
  paint : Option Bool := none

namespace Editor

/-- An editor on a session. -/
def ofSession (s : Session) (path : String) (config : EditorConfig) : Editor :=
  { session := s, path, config }

/-- Why an editor cannot be opened. -/
inductive OpenError where
  | load (e : LoadError)
  | invalid (path : String) (flaw : DesignFlaw)

/-- The error in words. -/
def OpenError.message : OpenError → String
  | load e => e.message
  | invalid path flaw => "Invalid design in " ++ path ++ ": " ++ flaw.message

/-- An editor on what was found at a path: a new design when nothing was. -/
def openFile (path : String) (content : Option (Except FileError String)) (config : EditorConfig) :
    Except OpenError Editor :=
  match content with
  | none => .ok (ofSession Session.blank path config)
  | some content =>
    match loadDisplay path content with
    | .ok (d, o) => .ok (ofSession (Session.ofDesign d o) path config)
    | .error (.flawed flaw) => .error (.invalid path flaw)
    | .error e => .error (.load e)

/-- The bitmap of the selected cell. -/
def currentCell (s : Editor) : Bitmap := s.session.display.get s.line s.column

/-! ## Selection -/

theorem toNat_emod_lt {n : Nat} (pos : 0 < n) (i : Int) : (i % n).toNat < n := by
  have nonneg := Int.emod_nonneg i (Int.ne_of_gt (Int.natCast_pos.mpr pos))
  have lt := Int.emod_lt_of_pos i (Int.natCast_pos.mpr pos)
  omega

/-- A number modulo `n`. -/
def wrap (n : Nat) (pos : 0 < n) (i : Int) : Fin n := ⟨(i % n).toNat, toNat_emod_lt pos i⟩

theorem val_wrap (n : Nat) (pos : 0 < n) (i : Int) : ((wrap n pos i).val : Int) = i % n :=
  Int.toNat_of_nonneg (Int.emod_nonneg i (Int.ne_of_gt (Int.natCast_pos.mpr pos)))

/-- Select a cell, if it exists. -/
def selectCell (s : Editor) (line column : Nat) : Editor :=
  if h : line < lcdLines ∧ column < lcdColumns then
    { s with line := ⟨line, h.1⟩, column := ⟨column, h.2⟩ }
  else s

/-- Go some lines and columns further; the edges of the display are joined. -/
def moveCell (s : Editor) (lines columns : Int) : Editor :=
  { s with
    line := wrap lcdLines lcdLines_pos ((s.line : Nat) + lines)
    column := wrap lcdColumns lcdColumns_pos ((s.column : Nat) + columns) }

/-- Go some cells further in scan order. -/
def stepCell (s : Editor) (cells : Int) : Editor :=
  let place := wrap (lcdLines * lcdColumns) (Nat.mul_pos lcdLines_pos lcdColumns_pos)
    ((lcdColumns * s.line + s.column : Nat) + cells)
  s.selectCell (place / lcdColumns) (place % lcdColumns)

/-- Move the pixel cursor; the edges of the cell are joined. -/
def movePixel (s : Editor) (rows columns : Int) : Editor :=
  { s with
    pixelRow := wrap glyphRows glyphRows_pos ((s.pixelRow : Nat) + rows)
    pixelColumn := wrap glyphColumns glyphColumns_pos ((s.pixelColumn : Nat) + columns) }

/-! ## Edits -/

/-- Take over the result of an edit, which made changes or did not. -/
def apply (s : Editor) (edit : Session × Bool) : Editor :=
  { s with session := edit.1, dirty := s.dirty || edit.2 }

/-- Flip the pixel under the cursor. -/
def togglePixel (s : Editor) : Editor :=
  let (session, on) := s.session.togglePixel s.line s.column s.pixelRow s.pixelColumn
  s.apply (session, on.isSome)

/-- Give a pixel of the selected cell the state that is painted, if one is. -/
def paintAt (s : Editor) (row column : Nat) : Editor :=
  match s.paint with
  | none => s
  | some on => s.apply (s.session.setPixel s.line s.column row column on)

/-- Begin to paint: the pixel, and all others until the end, get the opposite of
the state that the pixel had. -/
def beginPaint (s : Editor) (row column : Nat) : Editor :=
  if h : row < glyphRows ∧ column < glyphColumns then
    let on := s.currentCell.get ⟨row, h.1⟩ ⟨column, h.2⟩
    { s with paint := some !on, pixelRow := ⟨row, h.1⟩, pixelColumn := ⟨column, h.2⟩ }.paintAt
      row column
  else s

/-- Stop painting. -/
def endPaint (s : Editor) : Editor := { s with paint := none }

/-- Blank the selected cell. -/
def clearCell (s : Editor) : Editor :=
  s.apply (s.session.clearCell s.line s.column)

/-- Blank the whole display. -/
def resetDisplay (s : Editor) : Editor :=
  { s with session := s.session.resetDisplay, playback := .stopped, dirty := true }

/-- The selected position in words. -/
def place (s : Editor) : String :=
  "(" ++ toString s.line.val ++ ", " ++ toString s.column.val ++ ")"

/-- Copy the selected cell. -/
def copyCell (s : Editor) : Editor :=
  let (session, copied) := s.session.copyCell s.line s.column
  { s with session, status := if copied then some ("Copied cell " ++ s.place) else s.status }

/-- Paste into the selected cell, if anything has been copied. -/
def pasteCell (s : Editor) : Editor :=
  if s.session.clipboard.isNone then s
  else
    { s.apply (s.session.pasteCell s.line s.column) with
      status := some ("Pasted into " ++ s.place) }

/-! ## Options and preview -/

/-- Change the options. A preview that is playing starts again when that changes
anything. -/
def updateOptions (s : Editor) (now : Time) (change : Options → Options) : Editor :=
  let (session, changed) := s.session.updateOptions change
  if changed then
    { s with session, dirty := true, playback := s.playback.restart now session.plan }
  else { s with session }

/-- Stop the preview, or start it if anything moves. -/
def togglePlayback (s : Editor) (now : Time) : Editor :=
  if s.playback.isPlaying then { s with playback := .stopped, status := none }
  else
    match Playback.start? now s.session.plan with
    | some playback => { s with playback }
    | none =>
      { s with
        playback := .stopped
        status := some "Enable scrolling to preview an animation" }

/-- Advance the preview if it is due, and report whether it was. -/
def advance (s : Editor) (now : Time) : Editor × Bool :=
  let (playback, advanced) := s.playback.advance now
  ({ s with playback }, advanced)

/-! ## The sketch panel -/

/-- Number of lines of the sketch. -/
def sketchLines (s : Editor) : Nat := s.session.compiled.codeLines.length

/-- Scroll some lines towards the end of the sketch, whose last line stays in the panel. -/
def scrollDown (s : Editor) (lines : Nat) : Editor :=
  { s with sketchScroll := min (s.sketchScroll + lines) (s.sketchLines - 1) }

/-- Scroll some lines towards the start of the sketch. -/
def scrollUp (s : Editor) (lines : Nat) : Editor :=
  { s with sketchScroll := s.sketchScroll - lines }

/-! ## Saving -/

/-- The text that is saved at the path of the editor. -/
def fileText (s : Editor) : String :=
  (DesignFile.ofDisplay s.session.display s.session.options).text

/-- Take over that the design has been saved. -/
def saved (s : Editor) : Editor :=
  { s with dirty := false, status := some "Saved" }

/-- Where the sketch is exported to. -/
def exportPath (s : Editor) : String := sketchPath s.path

/-- Take over that the sketch has been exported. -/
def exported (s : Editor) : Editor :=
  { s with status := some ("Exported " ++ s.exportPath) }

/-- Save the design. -/
def save (s : Editor) (files : FileStore) : Except WriteError (Editor × FileStore) :=
  match files.write s.path s.fileText with
  | .error e => .error ⟨s.path, e⟩
  | .ok files => .ok (s.saved, files)

/-- Export the sketch. -/
def exportSketch (s : Editor) (files : FileStore) : Except WriteError (Editor × FileStore) :=
  match files.write s.exportPath s.session.code with
  | .error e => .error ⟨s.exportPath, e⟩
  | .ok files => .ok (s.exported, files)

/-- Show that saving failed. -/
def saveFailed (s : Editor) (e : WriteError) : Editor :=
  { s with status := some ("Save failed: " ++ e.context) }

/-- Show that exporting failed. -/
def exportFailed (s : Editor) (e : WriteError) : Editor :=
  { s with status := some ("Export failed: " ++ e.context) }

end Editor

end CharLcd
