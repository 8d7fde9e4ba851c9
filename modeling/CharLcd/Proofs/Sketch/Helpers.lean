import CharLcd.Proofs.Scan
import CharLcd.Proofs.Sketch.Arrays
import CharLcd.Proofs.Sketch.Loops
import Mathlib.Order.Fin.Basic

/-!
# The helper functions of an animated sketch

What the functions `scrollColumn`, `placeGlyph` and `updateDisplay` of a sketch
do, whatever the sketch around them.

- `State.Scrolled`: the picture has been scrolled by an offset.
- `Functions.Scrolls`, `Functions.Places`, `Functions.Updates`: the functions at
  hand include one that does the job.
- `scrolls_add`, `places_add`, `updates_add`: a helper of the sketch does it.
-/

namespace CharLcd

/-- A placement stands on a line of the display and has an index that a slot can have. -/
structure Placement.Drawable (p : Placement) : Prop where
  line : p.line < lcdLines
  glyph : p.glyph < 255

namespace Sketch

/-- The picture has been scrolled by an offset. -/
structure State.Scrolled (s : State) (offset : Nat) : Prop where
  columns : s.globals.lookup "LCD_COLUMNS" = some (.number "int" (lcdColumns : Nat))
  offset : s.globals.lookup "scrollOffset" = some (.number "int" (offset : Nat))

/-! ## Scrolling -/

/-- The remainder of a negative number is negative; adding the divisor mends it. -/
theorem mend_tmod (v : Int) :
    (if v.tmod 16 < 0 then v.tmod 16 + 16 else v.tmod 16) = v % 16 := by
  have h := Int.tmod_eq_emod (a := v) (b := 16)
  split at h <;> split <;> omega

/-- One of the functions gives the column after scrolling. -/
def Functions.Scrolls (functions : Functions) (direction : Direction) : Prop :=
  ∃ meaning, functions.lookup "scrollColumn" = some meaning ∧
    ∀ (s : State) (offset column : Nat), s.Scrolled offset →
      meaning [(column : Int)] s = some (s, ((scrollColumn direction column offset : Nat) : Int))

/-- The column before it is wrapped into the display. -/
def shifted (direction : Direction) (column offset : Nat) : Int :=
  match direction with
  | .left => (column : Int) - offset
  | .right => (column : Int) + offset

theorem shifted_emod (direction : Direction) (column offset : Nat) :
    shifted direction column offset % 16 = ((scrollColumn direction column offset : Nat) : Int) := by
  cases direction <;> simp only [shifted, scrollColumn, lcdColumns] <;> omega

theorem eval_shift {functions : Functions} {s : State} {column offset : Nat} (direction : Direction)
    (hcolumn : s.number? "column" = some (column : Int))
    (hoffset : s.number? "scrollOffset" = some (offset : Int)) :
    (shift direction).eval functions s = some (shifted direction column offset) := by
  cases direction <;> exact Expr.eval_binary hcolumn hoffset

theorem scrolls_add (l : Loaded) (direction : Direction) :
    (l.add (scrollFunction direction)).functions.Scrolls direction := by
  refine ⟨_, List.lookup_cons_self, ?_⟩
  intro s offset column h
  let s₀ : State := { s with locals := bindings [("int", "column")] [(column : Int)] }
  -- `p` is what the first line of the function computes; it may be negative
  let p : Int := (shifted direction column offset).tmod 16
  have hcolumns : s₀.number? "LCD_COLUMNS" = some 16 :=
    State.number?_of_global rfl h.columns
  have hoffset : s₀.number? "scrollOffset" = some (offset : Int) :=
    State.number?_of_global rfl h.offset
  have hposition : Stmt.Runs l.functions
      (.declare "int" "position" (.binary .mod (.parens (shift direction)) (.name "LCD_COLUMNS")))
      s₀ (s₀.declare "position" (.number "int" p)) :=
    .declare (Expr.eval_binary (eval_shift direction rfl hoffset) (Expr.eval_name hcolumns))
  -- the second line brings it back into the display
  have hmend : Stmt.Runs l.functions
      (.ifThen (.binary .lt (.name "position") (.number 0)) (.block [
        .increase "position" (.name "LCD_COLUMNS")]))
      (s₀.declare "position" (.number "int" p))
      (s₀.declare "position" (.number "int" ((scrollColumn direction column offset : Nat) : Int))) := by
    have hcompare : (Expr.binary .lt (.name "position") (.number 0)).eval l.functions
        (s₀.declare "position" (.number "int" p)) = Op.eval .lt p 0 :=
      Expr.eval_binary (Expr.eval_name (State.number?_declare_self s₀ "position" "int" p)) rfl
    have hwrap := (mend_tmod _).trans (shifted_emod direction column offset)
    by_cases hp : p < 0
    · have hvalue : p + 16 = ((scrollColumn direction column offset : Nat) : Int) := by
        rwa [if_pos hp] at hwrap
      rw [← hvalue]
      have hone : Op.eval .lt p 0 = some 1 := by simp [Op.eval, truth, hp]
      refine .ifThen_of_true (hcompare.trans hone) (by decide) ?_
      exact (Stmt.Runs.block_singleton (Stmt.Runs.increase (State.number?_declare_self s₀ _ _ p)
          (Expr.eval_name ((State.number?_declare_of_ne s₀ _ (by decide)).trans hcolumns))
          (State.assign_declare_self s₀ _ p _))).inScope_of_length_eq rfl
    · have hvalue : p = ((scrollColumn direction column offset : Nat) : Int) := by
        rwa [if_neg hp] at hwrap
      rw [← hvalue]
      refine Stmt.Runs.ifThen_of_false (hcompare.trans ?_)
      simp [Op.eval, truth, hp]
  have hreturn := (hposition.exec_seq.trans hmend.exec_seq).trans
    (show (Stmt.block [.ret (.name "position")]).exec l.functions _ = some (_, some _) from rfl)
  exact meaningOf_eq rfl hreturn

theorem eval_scrollColumn {functions : Functions} {direction : Direction} {s : State}
    {offset column : Nat} {argument : Expr} (hfunctions : functions.Scrolls direction)
    (hs : s.Scrolled offset) (hargument : argument.eval functions s = some (column : Int)) :
    (Expr.call "scrollColumn" argument).eval functions s =
      some ((scrollColumn direction column offset : Nat) : Int) := by
  obtain ⟨meaning, hlookup, hmeaning⟩ := hfunctions
  have hvalue := hmeaning s offset column hs
  simp [Expr.eval, hargument, hlookup, hvalue]

/-! ## Placing a character -/

/-- One of the functions puts a placement into the current frame. -/
def Functions.Places (functions : Functions) (direction : Direction) : Prop :=
  ∃ meaning, functions.lookup "placeGlyph" = some meaning ∧
    ∀ (s : State) (offset : Nat) (f : Frame) (p : Placement), s.Scrolled offset →
      s.Holds "currentFrame" f → p.Drawable →
      ∃ frames, meaning [(p.line : Int), (p.column : Int), (p.glyph : Int)] s =
          some ({ s with frames }, 0) ∧
        Rewritten "currentFrame"
          (f.write ⟨p.line, scrollColumn direction p.column offset, some p.glyph⟩) s.frames frames

theorem places_add (l : Loaded) {direction : Direction} (hl : l.functions.Scrolls direction) :
    (l.add placeFunction).functions.Places direction := by
  refine ⟨_, List.lookup_cons_self, ?_⟩
  intro s offset f p hs hf hp
  let locals := bindings [("int", "line"), ("int", "column"), ("byte", "glyph")]
    [(p.line : Int), (p.column : Int), (p.glyph : Int)]
  let s₀ : State := { s with locals }
  have hscroll : (Expr.call "scrollColumn" (.name "column")).eval l.functions s₀ =
      some ((scrollColumn direction p.column offset : Nat) : Int) :=
    eval_scrollColumn hl ⟨hs.columns, hs.offset⟩ rfl
  have hglyph : s₀.number? "glyph" = some (slotByte (some p.glyph)) :=
    congrArg some (fit_slotByte (a := some p.glyph) (by rintro _ ⟨⟩; exact hp.glyph))
  -- the function stores one byte, in the slot to which the character has been scrolled
  obtain ⟨frames, hstore, hframes⟩ := State.store_of_holds (s := s₀) hf ⟨p.line, hp.line⟩
    ⟨_, scrollColumn_lt direction p.column offset⟩ (some p.glyph)
    (by rintro _ ⟨⟩; exact hp.glyph)
  refine ⟨frames, ?_, ?_⟩
  · exact meaningOf_eq rfl (Stmt.Runs.block_singleton
      (.store (Expr.eval_name rfl) hscroll (Expr.eval_name hglyph) hstore))
  · have hwrite : f.write ⟨p.line, scrollColumn direction p.column offset, some p.glyph⟩ =
        f.set ⟨p.line, hp.line⟩ ⟨_, scrollColumn_lt direction p.column offset⟩ (some p.glyph) := by
      simp [Frame.write, Grid.set?, hp.line, scrollColumn_lt direction p.column offset]
    rw [hwrite]
    exact hframes

/-! ## Writing what has changed -/

/-- One of the functions writes the slots in which the current frame differs from the previous one,
which is the same afterwards. -/
def Functions.Updates (functions : Functions) : Prop :=
  ∃ meaning, functions.lookup "updateDisplay" = some meaning ∧
    ∀ (s : State) (offset : Nat) (prev next : Frame), s.Scrolled offset →
      s.globals.lookup "BLANK_SLOT" = some (.number "byte" 255) →
      s.Holds "previousFrame" prev → prev.Numbered → s.Holds "currentFrame" next → next.Numbered →
      ∃ frames, meaning [] s =
          some ({ s with frames, signals := s.signals ++ (prev.diff next).flatMap Signal.ofWrite }, 0) ∧
        Rewritten "previousFrame" next s.frames frames


/-- The signals that bring a slot from one frame to another. -/
def changeSignals (prev next : Frame) (p : Fin lcdLines × Fin lcdColumns) : List Signal :=
  if prev.get p.1 p.2 = next.get p.1 p.2 then []
  else Signal.ofWrite ⟨p.1, p.2, next.get p.1 p.2⟩

/-- Showing the content of the variable `slot` at the cursor. -/
theorem runs_showSlot {functions : Functions} (hf : functions.KeepLibrary) {s : State} {slot : Slot}
    (hslot : ∀ index, slot = some index → index < 255)
    (hvalue : s.number? "slot" = some (slotByte slot))
    (hblank : s.number? "BLANK_SLOT" = some 255) :
    Stmt.Runs functions
      (.ifElse (.binary .eq (.name "slot") (.name "BLANK_SLOT"))
        (.block [run "lcd.print" [.char ' ']])
        (.block [run "lcd.write" [.name "slot"]]))
      s (s.sendAll [.ofSlot slot]) := by
  have hempty : (Expr.binary .eq (.name "slot") (.name "BLANK_SLOT")).eval functions s =
      some (truth (slotByte slot = 255)) :=
    Expr.eval_binary (Expr.eval_name hvalue) (Expr.eval_name hblank)
  cases slot with
  | none =>
    refine .ifElse_of_true hempty (by decide) (Stmt.Runs.inScope_of_length_eq ?_ rfl)
    exact .block_singleton (.send (hf _ (by decide)) rfl)
  | some index =>
    have hne : truth (slotByte (some index) = 255) = 0 := by
      rw [truth, if_neg]
      exact fun h => nomatch (slotByte_eq_blank hslot).mp h
    refine .ifElse_of_false (hempty.trans (congrArg some hne)) (Stmt.Runs.inScope_of_length_eq ?_ rfl)
    exact .block_singleton (.send (hf _ (by decide)) (signal?_write hvalue))

/-- Writing a slot that has changed sends its signals and makes the frames agree there. -/
theorem runs_updateSlot {functions : Functions} (hf : functions.KeepLibrary) {t : State}
    {prev next : Frame} {p : Fin lcdLines × Fin lcdColumns} (hlocals : t.locals = [])
    (hblank : t.globals.lookup "BLANK_SLOT" = some (.number "byte" 255))
    (hprev : t.Holds "previousFrame" prev) (hnext : t.Holds "currentFrame" next)
    (hold : ∀ index, prev.get p.1 p.2 = some index → index < 255)
    (hslot : ∀ index, next.get p.1 p.2 = some index → index < 255) :
    ∃ frames, Stmt.RunsInScope functions (.block [updateSlot]) (t.atSlot p)
        (State.atSlot { t with frames, signals := t.signals ++ changeSignals prev next p } p) ∧
      Rewritten "previousFrame" (prev.set p.1 p.2 (next.get p.1 p.2)) t.frames frames := by
  -- the state inside the loops once the new content has been read into `slot`
  let u := (t.atSlot p).declare "slot" (.number "byte" (slotByte (next.get p.1 p.2)))
  have hline : (Expr.name "line").eval functions u = some (p.1 : Int) := rfl
  have hcolumn : (Expr.name "column").eval functions u = some (p.2 : Int) := rfl
  have hdeclare : Stmt.Runs functions
      (.declare "byte" "slot" (.entry "currentFrame" (.name "line") (.name "column")))
      (t.atSlot p) u := by
    have hfit : u = (t.atSlot p).declare "slot"
        (.number "byte" (fit "byte" (slotByte (next.get p.1 p.2)))) := by
      rw [fit_slotByte hslot]
    rw [hfit]
    exact .declare (State.entry_of_holds (s := t.atSlot p) hnext p.1 p.2)
  have hcompare : (Expr.binary .ne (.name "slot")
      (.entry "previousFrame" (.name "line") (.name "column"))).eval functions u =
      some (truth (slotByte (next.get p.1 p.2) ≠ slotByte (prev.get p.1 p.2))) :=
    Expr.eval_binary (Expr.eval_name rfl) (State.entry_of_holds (s := u) hprev p.1 p.2)
  by_cases hsame : prev.get p.1 p.2 = next.get p.1 p.2
  · refine ⟨t.frames, ?_, ?_, fun _ _ => rfl⟩
    · have hskip : Stmt.Runs functions updateSlot (t.atSlot p) u := by
        refine .block_cons hdeclare (.block_singleton (.ifThen_of_false (hcompare.trans ?_)))
        rw [hsame, truth, if_neg (fun h => h rfl)]
      -- the variable `slot` is forgotten at the end of the body
      have hscope := (Stmt.Runs.block_singleton hskip).inScope [("slot", _)] rfl
      rw [changeSignals, if_pos hsame, List.append_nil]
      exact hscope
    · rw [← hsame, Grid.set_get_self]
      exact hprev
  · obtain ⟨frames, hstore, hframes⟩ := State.store_of_holds
      (s := u.sendAll (changeSignals prev next p)) hprev p.1 p.2 _ hslot
    refine ⟨frames, ?_, hframes⟩
    -- different slots have different bytes, since no index is the byte of an empty slot
    have hdiffer : truth (slotByte (next.get p.1 p.2) ≠ slotByte (prev.get p.1 p.2)) ≠ 0 := by
      rw [truth, if_pos (fun h => hsame ((slotByte_inj hslot hold).mp h).symm)]
      decide
    have hempty : u.number? "BLANK_SLOT" = some 255 := by
      refine State.number?_of_global ?_ hblank
      show List.lookup "BLANK_SLOT" (_ :: _ :: _ :: t.locals) = none
      rw [hlocals]
      rfl
    have hcursor : Stmt.Runs functions (run "lcd.setCursor" [.name "column", .name "line"]) u
        (u.sendAll [.setCursor p.2 p.1]) :=
      .send (hf _ (by decide)) (signal?_setCursor hcolumn hline)
    have hshow := runs_showSlot hf (s := u.sendAll [.setCursor p.2 p.1]) hslot rfl hempty
    rw [State.sendAll_sendAll] at hshow
    rw [changeSignals, if_neg hsame] at hstore ⊢
    have hkeep : Stmt.Runs functions
        (.store "previousFrame" (.name "line") (.name "column") (.name "slot")) _ _ :=
      .store rfl rfl (Expr.eval_name rfl) hstore
    have hchange : Stmt.Runs functions updateSlot (t.atSlot p) _ :=
      .block_cons hdeclare (.block_singleton (.ifThen_of_true hcompare hdiffer
        (Stmt.Runs.inScope_of_length_eq
          (.block_cons hcursor (.block_cons hshow (.block_singleton hkeep))) rfl)))
    have hscope := (Stmt.Runs.block_singleton hchange).inScope [("slot", _)] rfl
    exact hscope

/-- Half way through an update: the slots done agree with the next frame, the others still with
the previous one, and the signals of the slots done have been sent. -/
structure Updating (s : State) (prev next : Frame) (done : List (Fin lcdLines × Fin lcdColumns))
    (t : State) : Prop where
  globals : t.globals = s.globals
  locals : t.locals = s.locals
  others : ∀ other, other ≠ "previousFrame" → t.frames.lookup other = s.frames.lookup other
  shown : ∃ f : Frame, t.Holds "previousFrame" f ∧
    ∀ p : Fin lcdLines × Fin lcdColumns,
      f.get p.1 p.2 = if p ∈ done then next.get p.1 p.2 else prev.get p.1 p.2
  signals : t.signals = s.signals ++ done.flatMap (changeSignals prev next)

theorem updating_start {s : State} {prev next : Frame} (hprev : s.Holds "previousFrame" prev) :
    Updating s prev next [] s where
  globals := rfl
  locals := rfl
  others _ _ := rfl
  shown := ⟨prev, hprev, fun p => by rw [if_neg List.not_mem_nil]⟩
  signals := (List.append_nil _).symm

/-- One more slot. -/
theorem updating_step {functions : Functions} (hf : functions.KeepLibrary) {s t : State}
    {prev next : Frame} {done : List (Fin lcdLines × Fin lcdColumns)}
    {p : Fin lcdLines × Fin lcdColumns} (hlocals : s.locals = [])
    (hblank : s.globals.lookup "BLANK_SLOT" = some (.number "byte" 255))
    (hnext : s.Holds "currentFrame" next) (hnumbered : next.Numbered)
    (hold : prev.Numbered) (hp : p ∉ done) (h : Updating s prev next done t) :
    ∃ t', Stmt.RunsInScope functions (.block [updateSlot]) (t.atSlot p) (t'.atSlot p) ∧
      Updating s prev next (done ++ [p]) t' := by
  obtain ⟨f, hshown, hf'⟩ := h.shown
  -- a slot that has not been visited still holds the previous frame
  have hprev : f.get p.1 p.2 = prev.get p.1 p.2 := by rw [hf' p, if_neg hp]
  have hcurrent : t.Holds "currentFrame" next := (h.others _ (by decide)).trans hnext
  obtain ⟨frames, hrun, hframes⟩ := runs_updateSlot hf (t := t) (h.locals.trans hlocals)
    (by rw [h.globals]; exact hblank) hshown hcurrent
    (fun index hi => hold p.1 p.2 index (hprev.symm.trans hi)) (hnumbered p.1 p.2)
  refine ⟨_, hrun, h.globals, h.locals, ?_, ⟨_, hframes.holds, ?_⟩, ?_⟩
  · intro other hne
    exact (hframes.others other hne).trans (h.others other hne)
  · intro q
    rw [Grid.get_set]
    by_cases hq : q = p
    · subst hq
      rw [if_pos ⟨rfl, rfl⟩, if_pos (List.mem_append_right _ List.mem_cons_self)]
    · rw [if_neg (fun hpos => hq (Prod.ext hpos.1 hpos.2)), hf' q]
      simp [hq]
  · have hsame : changeSignals f next p = changeSignals prev next p := by
      rw [changeSignals, changeSignals, hprev]
    show t.signals ++ changeSignals f next p = _
    rw [h.signals, hsame, List.flatMap_append, List.flatMap_singleton, List.append_assoc]

/-- The signals of the difference of two frames, slot by slot. -/
theorem flatMap_changeSignals (prev next : Frame) :
    (Grid.positions lcdLines lcdColumns).flatMap (changeSignals prev next) =
      (prev.diff next).flatMap Signal.ofWrite := by
  rw [Frame.diff]
  induction Grid.positions lcdLines lcdColumns with
  | nil => rfl
  | cons p rest ih =>
    rw [List.flatMap_cons, ih, List.filterMap_cons, changeSignals]
    split
    next h => simp [h]
    next h => simp [h]

theorem updates_add (l : Loaded) (hl : l.functions.KeepLibrary) :
    (l.add updateFunction).functions.Updates := by
  refine ⟨_, List.lookup_cons_self, ?_⟩
  intro s offset prev next hs hblank hprev hold hnext hnumbered
  let s₀ : State := { s with locals := [] }
  have hloop : ∃ t, Stmt.Runs l.functions (forEachSlot updateSlot) s₀ t ∧
      Updating s₀ prev next (Grid.positions lcdLines lcdColumns) t := by
    refine Stmt.Runs.forEachSlot (Updating s₀ prev next) ?_ ?_ ?_ (updating_start hprev)
    · exact fun _ t ht => ht.locals
    · intro _ t ht
      have hcolumns : t.globals.lookup "LCD_COLUMNS" = _ :=
        (congrArg (List.lookup _) ht.globals).trans hs.columns
      exact State.number?_of_global (by rw [ht.locals]; rfl) hcolumns
    · intro done p rest t hdone ht
      exact updating_step hl rfl hblank hnext hnumbered hold
        (Grid.not_mem_of_positions_eq hdone) ht
  obtain ⟨t, hrun, ht⟩ := hloop
  obtain ⟨f, hshown, hf⟩ := ht.shown
  -- all slots have been visited, so nothing of the previous frame is left
  have hfinal : f = next := by
    apply Grid.ext_get
    intro line column
    have h := hf (line, column)
    rwa [if_pos (Grid.mem_positions _)] at h
  refine ⟨t.frames, ?_, hfinal ▸ hshown, ht.others⟩
  rw [meaningOf_eq rfl (Stmt.Runs.block_singleton hrun), ht.globals, ht.signals, flatMap_changeSignals]
  rfl

end Sketch

end CharLcd
