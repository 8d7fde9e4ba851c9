import CharLcd.Editor.Control
import CharLcd.Editor.View

/-!
# Runs of the editor

- `Editor.follow`: what follows an event: files are written and the screen is
  drawn anew.
- `Editor.step`: one round: an event, what follows it, and the passing of time.
- `Editor.run`: a whole run over events that wait to be read.
-/

namespace CharLcd.Editor

open Terminal

/-- Show how saving went. -/
def reportSave (s : Editor) (result : Except FileError Unit) : Editor :=
  match result with
  | .ok () => s.saved
  | .error e => s.saveFailed ⟨s.path, e⟩

/-- Show how exporting went. -/
def reportExport (s : Editor) (result : Except FileError Unit) : Editor :=
  match result with
  | .ok () => s.exported
  | .error e => s.exportFailed ⟨s.exportPath, e⟩

/-- Write a file, and report how that went. -/
def tryWrite (files : FileStore) (path content : String) : FileStore × Except FileError Unit :=
  match files.write path content with
  | .ok files => (files, .ok ())
  | .error e => (files, .error e)

/-- An editor with the files it works on and what it has drawn. -/
structure Step where
  editor : Editor
  files : FileStore
  drawn : List Command

/-- What follows an event; `none` when the editor quits. -/
def follow (s : Editor) (files : FileStore) (size : Size) : Action → Option Step
  | .ignore => some ⟨s, files, []⟩
  | .redraw => some ⟨s, files, s.drawScreen size⟩
  | .save =>
    let (files, result) := tryWrite files s.path s.fileText
    let s := s.reportSave result
    some ⟨s, files, s.drawScreen size⟩
  | .exportSketch =>
    let (files, result) := tryWrite files s.exportPath s.session.code
    let s := s.reportExport result
    some ⟨s, files, s.drawScreen size⟩
  | .quit => none

/-- Advance the preview if it is due, and draw the tick. -/
def pass (s : Editor) (now : Time) (size : Size) : Editor × List Command :=
  let (s, advanced) := s.advance now
  (s, if advanced then s.drawTick size else [])

/-- One round of the editor; `none` when it quits. -/
def step (s : Editor) (files : FileStore) (now : Time) (size : Size) (e : Event) : Option Step :=
  let (s, action) := s.handle now (Layout.ofSize size) e
  match s.follow files size action with
  | none => none
  | some r =>
    let (s, ticked) := r.editor.pass now size
    some ⟨s, r.files, r.drawn ++ ticked⟩

/-- The files, and all that is drawn, after events are handled at one instant. -/
def runEvents (now : Time) (size : Size) (s : Editor) (files : FileStore) :
    List Event → FileStore × List Command
  | [] => (files, [])
  | e :: rest =>
    match s.step files now size e with
    | none => (files, [])
    | some r =>
      let (files, drawn) := runEvents now size r.editor r.files rest
      (files, r.drawn ++ drawn)

/-- Take the terminal over. -/
def enter : List Command := [.enterScreen, .captureMouse, .hideCursor, .clearScreen]

/-- Give the terminal back. -/
def leave : List Command := [.showCursor, .releaseMouse, .leaveScreen]

/-- The files, and all that is drawn, after a run over events that wait to be read. -/
def run (s : Editor) (files : FileStore) (now : Time) (size : Size) (events : List Event) :
    FileStore × List Command :=
  let (files, drawn) := runEvents now size s files events
  (files, enter ++ s.drawScreen size ++ drawn ++ leave)

end CharLcd.Editor
