import CharLcd.Proofs.Digits
import CharLcd.Proofs.Editor.Handling
import CharLcd.Proofs.Editor.Move
import CharLcd.Proofs.PathName

/-!
# Messages of the editor

The messages of an editor tell of its last action. They are few, and their lengths are bounded by
that of the path.

- `Editor.Message`: all messages of an editor on a path; `Message.length_le` bounds their length.
- `Editor.message_move`, `Editor.message_moves`: no other message is shown in a run.
- `length_sketchPath_le`: the path of a sketch is hardly longer than that of its design.
-/

namespace CharLcd

open LcdView Terminal

/-! ## The path of a sketch -/

namespace PathName

theorem length_dropTrailing_le (path : List Char) : (dropTrailing path).length ≤ path.length := by
  fun_induction dropTrailing path with
  | case1 rest ih => exact Nat.le_succ_of_le ih
  | case2 rest ih => exact Nat.le_succ_of_le (Nat.le_succ_of_le ih)
  | case3 => exact Nat.le_refl _

theorem length_split?_le {path directory name : List Char}
    (h : split? path = some (directory, name)) :
    directory.length + name.length ≤ path.length := by
  unfold split? at h
  dsimp only at h
  split at h
  next => cases h
  next =>
    cases h
    have hparts := congrArg List.length
      (List.takeWhile_append_dropWhile (p := (· ≠ '/')) (l := dropTrailing path.reverse))
    have hdropped := length_dropTrailing_le path.reverse
    rw [List.length_append] at hparts
    rw [List.length_reverse] at hdropped
    rw [List.length_reverse, List.length_reverse]
    omega

theorem length_stem_le (name : List Char) : (stem name).length ≤ name.length := by
  have hkept := (List.dropWhile_sublist (· ≠ '.') (l := name.reverse)).length_le
  rw [List.length_reverse] at hkept
  unfold stem
  split
  next => exact Nat.le_refl _
  next => exact Nat.le_refl _
  next heq =>
    rw [heq] at hkept
    rw [List.length_reverse]
    exact Nat.le_of_succ_le hkept

theorem length_replaceExtension_le (extension path : List Char) :
    (replaceExtension extension path).length ≤ path.length + 1 + extension.length := by
  unfold replaceExtension
  split
  next => omega
  next directory name hsplit =>
    have hparts := length_split?_le hsplit
    have hstem := length_stem_le name
    rw [List.length_append, List.length_append, List.length_cons]
    omega

theorem length_withExtension_le (extension path : List Char) :
    (withExtension extension path).length ≤ path.length + 1 + extension.length := by
  unfold withExtension
  split
  next => exact length_replaceExtension_le extension path
  next old _ =>
    have hshorter := length_replaceExtension_le extension (path.take (path.length - old.length))
    rw [List.length_take] at hshorter
    omega

end PathName

/-- The path of a sketch has at most four characters more than that of its design. -/
theorem length_sketchPath_le (path : String) : (sketchPath path).length ≤ path.length + 4 := by
  rw [sketchPath, String.length_ofList, ← String.length_toList]
  exact PathName.length_withExtension_le ['i', 'n', 'o'] path.toList

namespace Editor

/-! ## Messages -/

/-- The messages of an editor on a path, and no message. -/
inductive Message (path : String) : Option String → Prop where
  | silent : Message path none
  | copied (s : Editor) : Message path (some ("Copied cell " ++ s.place))
  | pasted (s : Editor) : Message path (some ("Pasted into " ++ s.place))
  | still : Message path (some "Enable scrolling to preview an animation")
  | saved : Message path (some "Saved")
  | exported : Message path (some ("Exported " ++ sketchPath path))
  | saveFailed (e : FileError) :
    Message path (some ("Save failed: " ++ WriteError.context ⟨path, e⟩))
  | exportFailed (e : FileError) :
    Message path (some ("Export failed: " ++ WriteError.context ⟨sketchPath path, e⟩))

/-- A position has one digit for the line and at most two for the column. -/
theorem length_place_le (s : Editor) : s.place.length ≤ 7 := by
  have hline : (toString s.line.val).length ≤ 1 :=
    (Nat.length_repr_le_iff (by decide)).mpr (Nat.lt_trans s.line.isLt (by decide))
  have hcolumn : (toString s.column.val).length ≤ 2 :=
    (Nat.length_repr_le_iff (by decide)).mpr (Nat.lt_trans s.column.isLt (by decide))
  rw [place, String.length_append, String.length_append, String.length_append, String.length_append]
  exact Nat.add_le_add_right (Nat.add_le_add (Nat.add_le_add_right (Nat.add_le_add_left hline 1) 2)
    hcolumn) 1

theorem length_context (e : WriteError) : e.context.length = 16 + e.path.length := by
  have htext : "Failed to write ".length = 16 := rfl
  unfold WriteError.context
  rw [String.length_append, htext]

/-- A message is at most 35 characters longer than the path, or it has at most 40. -/
theorem Message.length_le {path : String} {status : Option String} (h : Message path status) :
    (status.getD "").length ≤ max 40 (35 + path.length) := by
  have hsketch := length_sketchPath_le path
  cases h with
  | silent => exact Nat.zero_le _
  | copied s | pasted s =>
    refine Nat.le_trans ?_ (Nat.le_max_left 40 _)
    rw [Option.getD_some, String.length_append]
    exact Nat.le_trans (Nat.add_le_add_left s.length_place_le 12) (by decide)
  | still => exact Nat.le_max_left 40 _
  | saved => exact Nat.le_trans (by decide) (Nat.le_max_left 40 _)
  | exported =>
    have htext : "Exported ".length = 9 := rfl
    rw [Option.getD_some, String.length_append]
    omega
  | saveFailed e =>
    have htext : "Save failed: ".length = 13 := rfl
    rw [Option.getD_some, String.length_append, length_context]
    dsimp only
    omega
  | exportFailed e =>
    have htext : "Export failed: ".length = 15 := rfl
    rw [Option.getD_some, String.length_append, length_context]
    dsimp only
    omega

/-! ## Runs -/

section

variable {s : Editor} (now : Time)

theorem message_edit (h : Message s.path s.status) (e : Edit) :
    Message s.path (s.edit now e).status := by
  cases e with
  | beginPaint row column =>
    show Message s.path (s.beginPaint row column).status
    unfold beginPaint
    split <;> exact h
  | paintAt row column =>
    show Message s.path (s.paintAt row column).status
    unfold paintAt
    split <;> exact h
  | copyCell =>
    show Message s.path
      (if (s.session.copyCell s.line s.column).2 then some ("Copied cell " ++ s.place)
      else s.status)
    cases (s.session.copyCell s.line s.column).2 with
    | true => exact .copied s
    | false => exact h
  | pasteCell =>
    show Message s.path s.pasteCell.status
    unfold pasteCell
    split
    next => exact h
    next => exact .pasted s
  | updateOptions change =>
    show Message s.path (s.updateOptions now change).status
    unfold updateOptions
    split
    split <;> exact h
  | togglePlayback =>
    show Message s.path (s.togglePlayback now).status
    unfold togglePlayback
    split
    next => exact .silent
    next =>
      split
      next => exact h
      next => exact .still
  | _ => exact h

theorem message_selectCell (h : Message s.path s.status) (line column : Nat) :
    Message s.path (s.selectCell line column).status := by
  rw [selectCell_eq]
  exact h

theorem message_perform (h : Message s.path s.status) (f : KeyFunction) :
    Message s.path (s.perform now f).status := by
  cases f with
  | nextCell | prevCell => exact message_selectCell h _ _
  | copyCell => exact message_edit now h .copyCell
  | pasteCell => exact message_edit now h .pasteCell
  | play => exact message_edit now h .togglePlayback
  | transmission | numberFormat | scrolling | buffered | direction | slower | faster =>
    exact message_edit now h (.updateOptions _)
  | _ => exact h

theorem path_edit (s : Editor) (e : Edit) : (s.edit now e).path = s.path := by
  rw [edit_eq]

theorem path_selectCell (s : Editor) (line column : Nat) :
    (s.selectCell line column).path = s.path := by
  rw [selectCell_eq]

theorem path_perform (s : Editor) (f : KeyFunction) : (s.perform now f).path = s.path := by
  cases f with
  | nextCell | prevCell => exact path_selectCell s _ _
  | pasteCell => exact path_edit now s .pasteCell
  | play => exact path_edit now s .togglePlayback
  | transmission | numberFormat | scrolling | buffered | direction | slower | faster =>
    exact path_edit now s (.updateOptions _)
  | _ => rfl

/-- An event leaves the path alone and shows one of the messages. -/
theorem message_handle (h : Message s.path s.status) (l : Layout) (e : Event) :
    (s.handle now l e).1.path = s.path ∧ Message s.path (s.handle now l e).1.status := by
  have hhandled := s.handled_handle now l e
  generalize s.handle now l e = r at hhandled ⊢
  cases hhandled with
  | unbound => exact ⟨rfl, .silent⟩
  | moved a =>
    rw [arrow_eq]
    exact ⟨rfl, .silent⟩
  | performed f =>
    exact ⟨path_perform now _ f, message_perform (s := { s with status := none }) now .silent f⟩
  | answered q yes said =>
    rw [answer_eq]
    exact ⟨rfl, h⟩
  | pressed row column =>
    exact ⟨path_edit now s (.beginPaint row column), message_edit now h (.beginPaint row column)⟩
  | selected line column => exact ⟨path_selectCell s _ _, message_selectCell h _ _⟩
  | dragged row column =>
    exact ⟨path_edit now _ (.paintAt row column),
      message_edit (s := { s with pixelRow := row, pixelColumn := column }) now h
        (.paintAt row column)⟩
  | _ => exact ⟨rfl, h⟩

theorem message_move (h : Message s.path s.status) (m : Move) :
    (s.move m).path = s.path ∧ Message s.path (s.move m).status := by
  cases m with
  | event now l e => exact message_handle now h l e
  | edit now e => exact ⟨path_edit now s e, message_edit now h e⟩
  | tick now => exact ⟨rfl, h⟩
  | save result =>
    cases result with
    | ok => exact ⟨rfl, .saved⟩
    | error e => exact ⟨rfl, .saveFailed e⟩
  | exportSketch result =>
    cases result with
    | ok => exact ⟨rfl, .exported⟩
    | error e => exact ⟨rfl, .exportFailed e⟩

/-- In a run the path stays, and no other message is shown. -/
theorem message_moves (h : Message s.path s.status) (ms : List Move) :
    (s.moves ms).path = s.path ∧ Message s.path (s.moves ms).status := by
  induction ms generalizing s with
  | nil => exact ⟨rfl, h⟩
  | cons m ms ih =>
    obtain ⟨hpath, hmessage⟩ := message_move h m
    rw [← hpath] at hmessage ⊢
    exact ih hmessage

end

end Editor

end CharLcd
