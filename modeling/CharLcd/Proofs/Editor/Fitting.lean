import CharLcd.Proofs.Editor.MenuBar
import CharLcd.Proofs.Editor.Messages
import CharLcd.Proofs.Sketch.Length

/-!
# What is printed stays on the terminal

A terminal of at least 97 columns and 26 rows has room for all panels. Only the status line, which
shows the path and the message in full, can go beyond it.

- `Area.Contains.contains_size`: a rectangle that is on the terminal.
- `Editor.contains_of_not_mem_drawStatus`: all panels but the status line stay on the terminal.
- `Editor.length_statusText_le`: the length of the status line.
- `Editor.printed_on_terminal_iff`: when all that is printed stays on the terminal.
-/

namespace CharLcd

open LcdView Terminal

/-- A rectangle that ends where the terminal does, or before, is on the terminal. -/
theorem Terminal.Area.Contains.contains_size {a : Area} {p : Position} {size : Size}
    (hp : a.Contains p) (hwidth : a.origin.column + a.width ≤ size.width)
    (hheight : a.origin.row + a.height ≤ size.height) : size.contains p = true := by
  obtain ⟨hrow, hcolumn⟩ := hp
  rw [Size.contains, Bool.and_eq_true, decide_eq_true_eq, decide_eq_true_eq]
  exact ⟨Nat.lt_of_lt_of_le hcolumn.2 hwidth, Nat.lt_of_lt_of_le hrow.2 hheight⟩

namespace Editor

section

variable {s : Editor} {size : Size} {cursor p : Position}

/-! ## The panels -/

theorem length_sketchTitle_le (h : s.session.Current) : s.sketchTitle.length ≤ 18 := by
  have hlines : s.sketchLines < 1000 := by
    rw [sketchLines, h]
    exact Compiled.length_codeLines_lt _ _
  have hdigits : (toString s.sketchLines).length ≤ 3 :=
    (Nat.length_repr_le_iff (by decide)).mpr hlines
  rw [sketchTitle, String.length_append, String.length_append]
  exact Nat.add_le_add_right (Nat.add_le_add_left hdigits 8) 7

/-- The sketch ends where the terminal does, above the status line. -/
theorem contains_of_mem_drawSketch (h : s.session.Current) (hwidth : 97 ≤ size.width)
    (hheight : 26 ≤ size.height)
    (hp : p ∈ Screen.printed cursor (s.drawSketch (Layout.ofSize size))) :
    size.contains p = true := by
  have htitle := length_sketchTitle_le h
  have hcolumns : (Layout.ofSize size).sketchWidth =
      size.width - (Layout.ofSize size).sketch.column := rfl
  have hrows : (Layout.ofSize size).sketchHeight =
      size.height - 1 - (Layout.ofSize size).sketch.row := rfl
  have hcorner : (Layout.ofSize size).sketch.column + 30 ≤ size.width ∧
      (Layout.ofSize size).sketch.row ≤ 13 := by
    rcases Layout.sketch_ofSize size with ⟨hplace, hwide⟩ | ⟨hplace, -⟩
    · rw [hplace]
      exact ⟨hwide, by decide⟩
    · rw [hplace]
      exact ⟨Nat.le_trans (by decide) hwidth, Nat.le_refl 13⟩
  have harea := s.drawsIn_drawSketch (Layout.ofSize size) (Nat.le_refl _) (by omega)
  refine (harea.contains cursor p hp).contains_size ?_ ?_
  · dsimp only
    omega
  · dsimp only
    omega

/-- All panels but the status line stay on the terminal. -/
theorem contains_of_not_mem_drawStatus (h : s.session.Current) (hwidth : 97 ≤ size.width)
    (hheight : 26 ≤ size.height) (hp : p ∈ Screen.printed cursor (s.drawScreen size))
    (hstatus : p ∉ Screen.printed cursor (s.drawStatus (Layout.ofSize size))) :
    size.contains p = true := by
  have hin (hrow : p.row < 26) (hcolumn : p.column < size.width) : size.contains p = true := by
    rw [Size.contains, Bool.and_eq_true, decide_eq_true_eq, decide_eq_true_eq]
    exact ⟨hcolumn, Nat.lt_of_lt_of_le hrow hheight⟩
  rcases (s.mem_printed_drawScreen size).mp hp with hp | hp | hp | hp | hp | hp
  · have hmenu := s.textWidth_menuText_le (Nat.le_trans (by decide) hwidth)
    rw [s.printed_drawMenu _ Nat.one_ne_zero, Screen.mem_span] at hp
    obtain ⟨hrow, -, hcolumn⟩ := hp
    rw [Nat.zero_add] at hcolumn
    exact hin (hrow ▸ (by decide : 0 < 26)) (Nat.lt_of_lt_of_le hcolumn hmenu)
  · have harea := Layout.contains_lcdArea ((s.drawsIn_lcdArea _).contains cursor p hp)
    exact hin (by omega) (by omega)
  · have harea := Layout.contains_pixelArea
      ((s.drawsIn_drawPixels _ (Nat.succ_pos _)).contains cursor p hp)
    exact hin (by omega) (by omega)
  · have harea := Layout.contains_optionsArea ((s.drawsIn_drawOptions _).contains cursor p hp)
    exact hin (by omega) (by omega)
  · exact contains_of_mem_drawSketch h hwidth hheight hp
  · exact absurd hp hstatus

/-! ## The status line -/

theorem length_modeName_le (s : Editor) : s.modeName.length ≤ 7 := by
  unfold modeName
  split
  next => split <;> decide
  next => exact Nat.le_refl 7

theorem length_message (s : Editor) : s.message.length = (s.status.getD "").length := by
  rw [message, String.length_ofList, List.length_map, String.length_toList]

theorem length_statusText_le (h : Message s.path s.status) :
    s.statusText.length ≤ 23 + s.path.length + max 40 (35 + s.path.length) := by
  have hmode := s.length_modeName_le
  have hmodified : (if s.dirty then " [modified]" else "").length ≤ 11 := by
    split <;> decide
  have hmessage := h.length_le
  rw [← s.length_message] at hmessage
  have hspace : " ".length = 1 := rfl
  have hbar : " | ".length = 3 := rfl
  simp only [statusText, String.length_append]
  omega

/-- The status line stands in the last row, and all of it is on the terminal if its text has no more
characters than the terminal has columns. -/
theorem forall_contains_drawStatus_iff (cursor : Position) (hheight : 0 < size.height) :
    (∀ p ∈ Screen.printed cursor (s.drawStatus (Layout.ofSize size)), size.contains p = true) ↔
      s.statusText.length ≤ size.width := by
  rw [printed_drawStatus]
  simp only [Screen.mem_span, Size.contains, Bool.and_eq_true, decide_eq_true_eq]
  constructor
  · intro h
    refine Nat.le_of_not_lt fun hlt => ?_
    have hlast := h ⟨size.width, size.height - 1⟩ ⟨rfl, Nat.zero_le _, ?_⟩
    · exact Nat.lt_irrefl _ hlast.1
    · rw [Nat.zero_add]
      exact hlt
  · rintro hfits p ⟨hrow, -, hcolumn⟩
    rw [Nat.zero_add] at hcolumn
    refine ⟨Nat.lt_of_lt_of_le hcolumn hfits, ?_⟩
    rw [hrow]
    exact Nat.sub_lt hheight Nat.one_pos

end

/-- In any run from an opened design, on a terminal of at least 97 columns and 26 rows: what goes
beyond the terminal is printed in its last row, to the right; nothing does if and only if the text
of the status line has no more characters than the terminal has columns; and that is so whenever
the path is short enough. -/
theorem printed_on_terminal_iff {path : String} {content : Option (Except FileError String)}
    {config : EditorConfig} {opened : Editor} (hopen : openFile path content config = .ok opened)
    (ms : List Move) {size : Size} (hwidth : 97 ≤ size.width) (hheight : 26 ≤ size.height)
    (cursor : Position) :
    let s := opened.moves ms
    let printed := Screen.printed cursor (s.drawScreen size)
    (∀ p ∈ printed, p.row < size.height ∧ (p.row + 1 < size.height → p.column < size.width)) ∧
    ((∀ p ∈ printed, size.contains p = true) ↔ s.statusText.length ≤ size.width) ∧
    (23 + path.length + max 40 (35 + path.length) ≤ size.width →
      ∀ p ∈ printed, size.contains p = true) := by
  intro s printed
  obtain ⟨d, o, -, rfl⟩ := openFile_eq_ok hopen
  have hcurrent : s.session.Current :=
    moves_of_step (fun _ _ => Session.Step.current) (Session.current_ofDesign d o) ms
  obtain ⟨hpath, hmessage⟩ := message_moves
    (s := ofSession (Session.ofDesign d o) path config) .silent ms
  have habove {p : Position} (hp : p ∈ printed)
      (hstatus : p ∉ Screen.printed cursor (s.drawStatus (Layout.ofSize size))) :
      size.contains p = true :=
    contains_of_not_mem_drawStatus hcurrent hwidth hheight hp hstatus
  have hpositive : 0 < size.height := Nat.lt_of_lt_of_le (by decide) hheight
  have hiff : (∀ p ∈ printed, size.contains p = true) ↔ s.statusText.length ≤ size.width := by
    rw [← forall_contains_drawStatus_iff cursor hpositive]
    constructor
    · intro h p hp
      refine h p ((s.mem_printed_drawScreen size).mpr ?_)
      exact .inr (.inr (.inr (.inr (.inr hp))))
    · intro h p hp
      by_cases hstatus : p ∈ Screen.printed cursor (s.drawStatus (Layout.ofSize size))
      · exact h p hstatus
      · exact habove hp hstatus
  refine ⟨fun p hp => ?_, hiff, fun hshort => ?_⟩
  · by_cases hstatus : p ∈ Screen.printed cursor (s.drawStatus (Layout.ofSize size))
    · rw [printed_drawStatus, Screen.mem_span] at hstatus
      have hrow : p.row = size.height - 1 := hstatus.1
      omega
    · have hin := habove hp hstatus
      rw [Size.contains, Bool.and_eq_true, decide_eq_true_eq, decide_eq_true_eq] at hin
      exact ⟨hin.2, fun _ => hin.1⟩
  · have hlength := length_statusText_le (hpath ▸ hmessage)
    rw [hpath] at hlength
    exact hiff.mpr (Nat.le_trans hlength hshort)

/-- The longest message on a short path has room on the smallest terminal. -/
theorem printed_on_terminal_iff_failed_export :
    let size : Size := ⟨97, 26⟩
    let opened := ofSession (Session.ofDesign Display.blank {}) "design.json" {}
    let s := opened.moves [.exportSketch (.error .notFound)]
    openFile "design.json" none {} = .ok opened ∧ 97 ≤ size.width ∧ 26 ≤ size.height ∧
      23 + "design.json".length + max 40 (35 + "design.json".length) ≤ size.width ∧
      s.status = some "Export failed: Failed to write design.ino" ∧
      ∀ p ∈ Screen.printed ⟨0, 0⟩ (s.drawScreen size), size.contains p = true := by
  intro size opened s
  have hopen : openFile "design.json" none {} = .ok opened := rfl
  have hwidth : 97 ≤ size.width := by decide
  have hheight : 26 ≤ size.height := by decide
  have hshort : 23 + "design.json".length + max 40 (35 + "design.json".length) ≤ size.width := by
    decide
  have hstatus : s.status = some "Export failed: Failed to write design.ino" := by decide +kernel
  obtain ⟨-, -, hall⟩ := printed_on_terminal_iff hopen [.exportSketch (.error .notFound)] hwidth
    hheight ⟨0, 0⟩
  exact ⟨hopen, hwidth, hheight, hshort, hstatus, hall hshort⟩

/-- On a longer path the message that the sketch has been exported goes beyond the terminal. -/
theorem exported_beyond_terminal :
    let size : Size := ⟨97, 26⟩
    let path := "weather-station-entrance-hall-display.json"
    let opened := ofSession (Session.ofDesign Display.blank {}) path {}
    let s := opened.moves
      [.event 0 (Layout.ofSize size) (.key ⟨.char 'e', {}⟩), .exportSketch (.ok ())]
    openFile path none {} = .ok opened ∧
      s.status = some "Exported weather-station-entrance-hall-display.ino" ∧
      s.statusText.length = 101 ∧
      ∃ p ∈ Screen.printed ⟨0, 0⟩ (s.drawScreen size), size.contains p = false := by
  intro size path opened s
  have hopen : openFile path none {} = .ok opened := rfl
  have hstatus : s.status = some "Exported weather-station-entrance-hall-display.ino" ∧
      s.statusText.length = 101 := by decide +kernel
  have hbeyond : ⟨97, 25⟩ ∈ Screen.printed ⟨0, 0⟩ (s.drawScreen size) := by
    refine (s.mem_printed_drawScreen size).mpr (.inr (.inr (.inr (.inr (.inr ?_)))))
    rw [printed_drawStatus, Screen.mem_span, hstatus.2]
    decide
  exact ⟨hopen, hstatus.1, hstatus.2, ⟨97, 25⟩, hbeyond, by decide⟩

end Editor

end CharLcd
