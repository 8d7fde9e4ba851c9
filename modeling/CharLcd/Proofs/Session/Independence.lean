import CharLcd.Proofs.Session.Clipboard
import CharLcd.Proofs.Session.Reports

/-!
# Operations that do not meet

Two operations can be made in either order if they address different things, and if one that copies
does not go with one that copies or pastes. The sketches in between differ, for the characters are
numbered anew by every edit; but a sketch belongs to the display and the options, and these are the
same in the end.

- `Target.apart`: targets that have nothing in common.
- `Session.Operation.Independent`: operations that do not meet.
- `Session.reply_congr`: what an operation reports depends on what it addresses only, beside the
  clipboard if it pastes.
- `Session.independent_operations_commute`: independent operations give the same reports and the
  same session in either order.
-/

namespace CharLcd

/-! ## Targets -/

/-- Whether two targets have nothing in common. -/
def Target.apart : Target → Target → Bool
  | pixel line column row col, pixel line' column' row' col' =>
    !(line = line' && column = column' && row = row' && col = col')
  | pixel line column _ _, cell line' column' | cell line column, pixel line' column' _ _
  | cell line column, cell line' column' => !(line = line' && column = column')
  | options, options => false
  | options, _ | _, options => true
  | display, _ | _, display => false

theorem Target.apart_comm (p q : Target) : p.apart q = q.apart p := by
  cases p <;> cases q <;> simp only [apart, eq_comm]

/-- No pixel belongs to both of two targets that are apart. -/
theorem Target.covers_of_apart {p q : Target} (h : p.apart q = true) {l : Fin lcdLines}
    {c : Fin lcdColumns} {r : Fin glyphRows} {k : Fin glyphColumns}
    (hp : p.covers l c r k = true) : q.covers l c r k = false := by
  rw [← Bool.not_eq_true]
  intro hq
  cases p <;> cases q <;> simp_all [apart, covers]

section

variable {d e : Display} {line column row col : Nat}

/-- A pixel is the same in displays that do not differ in it. -/
theorem Display.pixel?_congr
    (same : ∀ l c r k, (Target.pixel line column row col).covers l c r k = true →
      d.pixel l c r k = e.pixel l c r k) :
    d.pixel? line column row col = e.pixel? line column row col := by
  by_cases hexists : PixelExists line column row col
  · obtain ⟨line, column, row, col, rfl, rfl, rfl, rfl⟩ := hexists.exists_fin
    rw [pixel?_fin, pixel?_fin, same]
    exact (Target.covers_pixel_fin ..).mpr ⟨rfl, rfl, rfl, rfl⟩
  · rw [pixel?_eq_none_iff.mpr hexists, pixel?_eq_none_iff.mpr hexists]

/-- A cell is the same in displays that do not differ in its pixels. -/
theorem Display.get?_congr
    (same : ∀ l c r k, (Target.cell line column).covers l c r k = true →
      d.pixel l c r k = e.pixel l c r k) :
    d.get? line column = e.get? line column := by
  by_cases hexists : CellExists line column
  · obtain ⟨line, column, rfl, rfl⟩ := hexists.exists_fin
    rw [Grid.get?_fin, Grid.get?_fin]
    refine congrArg some (Grid.ext_get fun r k => same line column r k ?_)
    exact (Target.covers_cell_fin ..).mpr ⟨rfl, rfl⟩
  · rw [Grid.get?_eq_none_iff.mpr hexists, Grid.get?_eq_none_iff.mpr hexists]

end

namespace Session

/-! ## Operations -/

namespace Operation

/-- Two operations that do not meet: they address different things, and if one of them copies, the
other neither copies nor pastes. -/
def Independent (a b : Operation) : Prop :=
  a.target.apart b.target = true ∧
    (a.copies = true → b.copies = false ∧ b.pastes = false) ∧
    (b.copies = true → a.copies = false ∧ a.pastes = false)

instance (a b : Operation) : Decidable (a.Independent b) :=
  inferInstanceAs (Decidable (_ ∧ _ ∧ _))

theorem Independent.symm {a b : Operation} (h : a.Independent b) : b.Independent a :=
  ⟨(Target.apart_comm ..).trans h.1, h.2.2, h.2.1⟩

variable {op : Operation}

/-- What an operation makes of a pixel depends on the clipboard only if it pastes. -/
theorem ink_congr {clipboard clipboard' : Option Bitmap}
    (h : op.pastes = true → clipboard = clipboard') (r : Fin glyphRows) (k : Fin glyphColumns)
    (old : Bool) : op.ink clipboard r k old = op.ink clipboard' r k old := by
  cases op with
  | pasteCell => rw [h rfl]
  | _ => rfl

/-- What an operation copies depends on the cell that it addresses only. -/
theorem copied?_congr {d e : Display}
    (same : ∀ l c r k, op.target.covers l c r k = true → d.pixel l c r k = e.pixel l c r k) :
    op.copied? d = op.copied? e := by
  cases op with
  | copyCell line column => exact Display.get?_congr same
  | _ => rfl

end Operation

/-! ## Reports -/

section

variable (s : Session)

theorem setPixel_snd (line column row col : Nat) (on : Bool) :
    (s.setPixel line column row col on).2 =
      decide (s.display.pixel? line column row col = some !on) := by
  by_cases hexists : PixelExists line column row col
  · obtain ⟨line, column, row, col, rfl, rfl, rfl, rfl⟩ := hexists.exists_fin
    rw [setPixel_fin, Display.pixel?_fin]
    cases s.display.pixel line column row col <;> cases on <;> rfl
  · rw [setPixel_of_not_exists s on hexists, Display.pixel?_eq_none_iff.mpr hexists]
    rfl

theorem setCell_snd (line column : Nat) (b : Bitmap) :
    (s.setCell line column b).2 = (s.display.get? line column).any (· ≠ b) := by
  by_cases hexists : CellExists line column
  · obtain ⟨line, column, rfl, rfl⟩ := hexists.exists_fin
    rw [setCell_fin, Grid.get?_fin]
    by_cases hsame : s.display.get line column = b <;> simp [hsame]
  · rw [setCell_of_not_exists s b hexists, Grid.get?_eq_none_iff.mpr hexists]
    rfl

theorem pasteCell_snd (line column : Nat) :
    (s.pasteCell line column).2 =
      s.clipboard.any fun b => (s.display.get? line column).any (· ≠ b) := by
  unfold pasteCell
  split
  next hnone =>
    rw [hnone]
    rfl
  next b hb =>
    rw [hb]
    exact s.setCell_snd line column b

theorem setOptions_snd (o : Options) :
    (s.setOptions o).2 = decide (o.clamped ≠ s.options) := by
  unfold setOptions
  by_cases hsame : o.clamped = s.options <;> simp [hsame]

end

/-- What an operation reports depends on what it addresses, and on the clipboard if it pastes. -/
theorem reply_congr {s t : Session} {op : Operation}
    (pixels : ∀ l c r k, op.target.covers l c r k = true →
      s.display.pixel l c r k = t.display.pixel l c r k)
    (options : op.target = .options → s.options = t.options)
    (clipboard : op.pastes = true → s.clipboard = t.clipboard) : s.reply op = t.reply op := by
  cases op with
  | setPixel line column row col on =>
    simp only [reply, setPixel_snd, Display.pixel?_congr pixels]
  | togglePixel line column row col =>
    simp only [reply, togglePixel_snd, Display.pixel?_congr pixels]
  | setCell line column b => simp only [reply, setCell_snd, Display.get?_congr pixels]
  | clearCell line column =>
    simp only [reply, clearCell, setCell_snd, Display.get?_congr pixels]
  | resetDisplay => rfl
  | copyCell line column =>
    simp only [reply, copyCell_snd, Operation.copied?_congr pixels]
  | pasteCell line column =>
    simp only [reply, pasteCell_snd, clipboard rfl, Display.get?_congr pixels]
  | setOptions o => simp only [reply, setOptions_snd, options rfl]
  | updateOptions change => simp only [reply, updateOptions, setOptions_snd, options rfl]

/-! ## Both orders -/

section

variable {s : Session} {a b : Operation}

/-- An operation leaves alone what an independent one addresses. -/
theorem pixel_perform_of_apart (h : a.target.apart b.target = true) {l : Fin lcdLines}
    {c : Fin lcdColumns} {r : Fin glyphRows} {k : Fin glyphColumns}
    (ha : a.target.covers l c r k = true) :
    (s.perform b).display.pixel l c r k = s.display.pixel l c r k := by
  rw [pixel_perform, Target.covers_of_apart h ha]
  rfl

/-- An operation that is independent of one that pastes leaves the clipboard alone. -/
theorem clipboard_perform_of_pastes (h : a.Independent b) (ha : a.pastes = true) :
    (s.perform b).clipboard = s.clipboard := by
  have hb : b.copies = false := by
    rw [← Bool.not_eq_true]
    intro hb
    rw [(h.2.2 hb).2] at ha
    cases ha
  exact (s.untouchedBeside_perform hb).clipboard

/-- An operation reports the same before and after an independent one. -/
theorem reply_perform (h : a.Independent b) : (s.perform b).reply a = s.reply a := by
  refine reply_congr (fun l c r k ha => pixel_perform_of_apart h.1 ha) ?_
    (clipboard_perform_of_pastes h)
  intro ha
  rw [options_perform]
  refine Operation.adjust_of_target_ne ?_ _
  intro hb
  have hapart := h.1
  rw [ha, hb] at hapart
  cases hapart

theorem display_perform_comm (h : a.Independent b) :
    ((s.perform a).perform b).display = ((s.perform b).perform a).display := by
  apply Display.ext_pixel
  intro l c r k
  simp only [pixel_perform]
  -- at most one of the two works on the pixel
  by_cases ha : a.target.covers l c r k = true
  · rw [ha, Target.covers_of_apart h.1 ha]
    exact Operation.ink_congr (fun hpastes => (clipboard_perform_of_pastes h hpastes).symm) ..
  · rw [Bool.not_eq_true] at ha
    rw [ha]
    by_cases hb : b.target.covers l c r k = true
    · rw [hb]
      exact Operation.ink_congr (clipboard_perform_of_pastes h.symm) ..
    · rw [if_neg hb, if_neg hb]
      rfl

theorem options_perform_comm (h : a.target.apart b.target = true) :
    ((s.perform a).perform b).options = ((s.perform b).perform a).options := by
  simp only [options_perform]
  by_cases ha : a.target = .options
  · have hb : b.target ≠ .options := by
      intro hb
      rw [ha, hb] at h
      cases h
    rw [Operation.adjust_of_target_ne hb, Operation.adjust_of_target_ne hb]
  · rw [Operation.adjust_of_target_ne ha, Operation.adjust_of_target_ne ha]

theorem clipboard_perform_comm (h : a.Independent b) :
    ((s.perform a).perform b).clipboard = ((s.perform b).perform a).clipboard := by
  have ha : a.copied? (s.perform b).display = a.copied? s.display :=
    Operation.copied?_congr fun l c r k hcovers => pixel_perform_of_apart h.1 hcovers
  have hb : b.copied? (s.perform a).display = b.copied? s.display :=
    Operation.copied?_congr fun l c r k hcovers => pixel_perform_of_apart h.symm.1 hcovers
  simp only [clipboard_perform, ha, hb]
  -- at most one of the two copies
  cases hcopies : a.copies with
  | false => rw [Operation.copied?_of_not_copies hcopies, Option.none_or, Option.none_or]
  | true =>
    rw [Operation.copied?_of_not_copies (h.2.1 hcopies).1, Option.none_or, Option.none_or]

/-- Sessions whose sketch belongs to their design are equal as soon as the rest is. -/
theorem Current.ext {t : Session} (hs : s.Current) (ht : t.Current)
    (display : s.display = t.display) (options : s.options = t.options)
    (clipboard : s.clipboard = t.clipboard) : s = t := by
  have compiled : s.compiled = t.compiled := by
    rw [hs, ht, display, options]
  cases s
  cases t
  simp only at display options clipboard compiled
  rw [display, options, clipboard, compiled]

theorem Current.perform (h : s.Current) (op : Operation) : (s.perform op).Current :=
  (s.step_perform op).current h

/-- Independent operations commute in a session whose sketch belongs to its design. -/
theorem Current.perform_comm (hs : s.Current) (h : a.Independent b) :
    (s.perform a).perform b = (s.perform b).perform a :=
  ((hs.perform a).perform b).ext ((hs.perform b).perform a) (display_perform_comm h)
    (options_perform_comm h.1) (clipboard_perform_comm h)

end

/-- After any operations on any design, two operations that address different pixels or different
cells, or of which one addresses the options and the other does not, give the same reports and the
same session in either order, its characters, its plan and its sketch included; only a copy must
not go with a copy or a paste. -/
theorem independent_operations_commute (d : Display) (o : Options) (ops : List Operation)
    {a b : Operation} (h : a.Independent b) :
    let s := (ofDesign d o).performAll ops
    (s.perform a).perform b = (s.perform b).perform a ∧
      (s.perform b).reply a = s.reply a ∧ (s.perform a).reply b = s.reply b := by
  intro s
  have hs : s.Current := performAll_of_step (fun _ _ => Step.current) (current_ofDesign d o) ops
  exact ⟨hs.perform_comm h, reply_perform h, reply_perform h.symm⟩

/-- A dot has been copied. It is pasted into the fourth cell, and a pixel of the second cell is
flipped, which makes another character that comes before the dot: the dot gets another number. -/
theorem independent_operations_commute_renumbered :
    let s := (ofDesign Display.blank { scrolling := true }).performAll
      [.setPixel 0 5 0 0 true, .copyCell 0 5]
    let paste := Operation.pasteCell 0 3
    let flip := Operation.togglePixel 0 1 2 2
    paste.Independent flip ∧
      (s.perform paste).compiled.glyphs ≠ (s.perform flip).compiled.glyphs ∧
      (s.perform paste).perform flip = (s.perform flip).perform paste ∧
      (s.perform flip).reply paste = .flag true ∧
      (s.perform paste).reply flip = .pixel (some true) := by
  intro s paste flip
  have hindependent : paste.Independent flip := by decide
  obtain ⟨hsame, hpaste, hflip⟩ := independent_operations_commute Display.blank
    { scrolling := true } [.setPixel 0 5 0 0 true, .copyCell 0 5] hindependent
  refine ⟨hindependent, by decide +kernel, hsame, hpaste.trans ?_, hflip.trans ?_⟩
  · decide
  · decide

end Session

end CharLcd
