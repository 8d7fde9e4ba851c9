import CharLcd.Proofs.Frame
import CharLcd.Proofs.Sketch.Helpers

/-!
# Rounds of the loop

What the loop of a sketch does in one round, in terms of the cycle of its plan.

- `runs_clearFrame`: the loop that marks every slot of an array as empty.
- `runs_redraw`, `runs_placeAll`: drawing the placements on the display or in an
  array.
- `Ready`: the memory before a round; `Functions.Serve`: the functions at hand.
- `round_of_ready`: a round sends the signals of its cycle.
-/

namespace CharLcd

namespace Frame

/-- Writing slots with indices that leave room for the empty one keeps that room. -/
theorem numbered_writeAll {f : Frame} (hf : f.Numbered) {ws : List SlotWrite}
    (hws : ∀ w ∈ ws, ∀ index, w.slot = some index → index < 255) : (f.writeAll ws).Numbered := by
  induction ws generalizing f with
  | nil => exact hf
  | cons w ws ih =>
    rw [writeAll_cons]
    refine ih ?_ fun v hv => hws v (List.mem_cons_of_mem w hv)
    intro line column index h
    rw [get_write] at h
    split at h
    · exact hws w List.mem_cons_self index h
    · exact hf line column index h

theorem numbered_ofPlan (plan : Plan) (h : ∀ p ∈ plan.placements, p.Drawable) (tick : Nat) :
    (ofPlan plan tick).Numbered := by
  refine numbered_writeAll numbered_blank ?_
  intro w hw index hindex
  obtain ⟨p, hp, rfl⟩ := List.mem_map.mp hw
  obtain rfl := Option.some.inj hindex
  exact (h p hp).glyph

end Frame

namespace Sketch

/-! ## Emptying a frame -/

/-- Half way through emptying an array. -/
structure Emptying (s : State) (array : String) (done : List (Fin lcdLines × Fin lcdColumns))
    (t : State) : Prop where
  same : t = { s with frames := t.frames }
  others : ∀ other, other ≠ array → t.frames.lookup other = s.frames.lookup other
  empty : ∃ f : Frame, t.Holds array f ∧ ∀ p ∈ done, f.get p.1 p.2 = none

theorem emptying_start {s : State} {array : String} {f : Frame} (hf : s.Holds array f) :
    Emptying s array [] s where
  same := rfl
  others _ _ := rfl
  empty := ⟨f, hf, fun _ h => nomatch h⟩

theorem number?_of_emptying {s t : State} {array : String}
    {done : List (Fin lcdLines × Fin lcdColumns)} (h : Emptying s array done t) (name : String) :
    t.number? name = s.number? name := by
  rw [h.same]
  rfl

/-- One more slot. -/
theorem emptying_step {functions : Functions} {s t : State} {array : String}
    {done : List (Fin lcdLines × Fin lcdColumns)} {p : Fin lcdLines × Fin lcdColumns}
    (hblank : s.number? "BLANK_SLOT" = some 255) (h : Emptying s array done t) :
    ∃ t', Stmt.RunsInScope functions
        (.block [.store array (.name "line") (.name "column") (.name "BLANK_SLOT")])
        (t.atSlot p) (t'.atSlot p) ∧
      Emptying s array (done ++ [p]) t' := by
  obtain ⟨g, hholds, hg⟩ := h.empty
  obtain ⟨frames, hstore, hframes⟩ := State.store_of_holds (s := t.atSlot p) hholds p.1 p.2
    none (fun _ h => nomatch h)
  have hvalue : (t.atSlot p).number? "BLANK_SLOT" = some (slotByte none) := by
    refine (State.number?_counting_of_ne _ p.2 (by decide)).trans ?_
    refine (State.number?_counting_of_ne t p.1 (by decide)).trans ?_
    exact (number?_of_emptying h _).trans hblank
  refine ⟨{ t with frames }, ?_, ?_, ?_, ⟨_, hframes.holds, ?_⟩⟩
  · exact (Stmt.Runs.block_singleton (.store (l := p.1) (c := p.2) rfl rfl
      (Expr.eval_name hvalue) hstore)).inScope_of_length_eq rfl
  · rw [h.same]
  · exact fun other hne => (hframes.others other hne).trans (h.others other hne)
  · intro q hq
    rw [Grid.get_set]
    split
    next => rfl
    next hne =>
      rcases List.mem_append.mp hq with hq | hq
      · exact hg q hq
      · obtain rfl := List.mem_singleton.mp hq
        exact absurd ⟨rfl, rfl⟩ hne

theorem runs_clearFrame (functions : Functions) {s : State} {array : String} {f : Frame}
    (hcolumns : s.number? "LCD_COLUMNS" = some (lcdColumns : Nat))
    (hblank : s.number? "BLANK_SLOT" = some 255) (hf : s.Holds array f) :
    ∃ frames, Stmt.Runs functions (clearFrame array) s { s with frames } ∧
      Rewritten array Frame.blank s.frames frames := by
  have hloop : ∃ t, Stmt.Runs functions (clearFrame array) s t ∧
      Emptying s array (Grid.positions lcdLines lcdColumns) t := by
    refine Stmt.Runs.forEachSlot (Emptying s array) ?_ ?_ ?_ (emptying_start hf)
    · intro _ t ht
      rw [ht.same]
    · exact fun _ t ht => (number?_of_emptying ht _).trans hcolumns
    · exact fun done p rest t _ ht => emptying_step hblank ht
  obtain ⟨t, hrun, ht⟩ := hloop
  obtain ⟨g, hholds, hg⟩ := ht.empty
  -- every position is among those done
  have hempty : g = Frame.blank := by
    apply Grid.ext_get
    intro line column
    rw [Frame.get_blank]
    exact hg (line, column) (Grid.mem_positions _)
  rw [ht.same] at hrun
  exact ⟨t.frames, hrun, hempty ▸ hholds, ht.others⟩

/-! ## Drawing the placements -/

theorem runs_drawAt {functions : Functions} (hf : functions.KeepLibrary) {s : State} {p : Placement}
    {column : Expr} {c : Nat} (hcolumn : column.eval functions s = some (c : Int))
    (hp : p.glyph < 255) :
    Stmt.Runs functions (.block (drawAt p column)) s
      (s.sendAll (Signal.ofWrite ⟨p.line, c, some p.glyph⟩)) := by
  have hglyph : (Expr.call "byte" (.number p.glyph)).eval functions
      (s.sendAll [.setCursor c p.line]) = some (p.glyph : Int) :=
    congrArg some (fit_slotByte (a := some p.glyph) (by rintro _ ⟨⟩; exact hp))
  have hcursor : Stmt.Runs functions (run "lcd.setCursor" [column, .number p.line]) s
      (s.sendAll [.setCursor c p.line]) :=
    .send (hf _ (by decide)) (signal?_setCursor hcolumn rfl)
  have hwrite : Stmt.Runs functions (run "lcd.write" [.call "byte" (.number p.glyph)]) _ _ :=
    .send (hf _ (by decide)) (signal?_write hglyph)
  rw [State.sendAll_sendAll] at hwrite
  exact .block_cons hcursor (.block_singleton hwrite)

/-- Clearing the display and drawing every placement, at a column that does not depend on the
signals sent. -/
theorem runs_redraw {functions : Functions} (hf : functions.KeepLibrary) (plan : Plan) (n : Nat)
    {s : State} (column : Placement → Expr) (hp : ∀ p ∈ plan.placements, p.glyph < 255)
    (hcolumn : ∀ p sent, (column p).eval functions (s.sendAll sent) =
      some ((plan.columnAt p n : Nat) : Int)) :
    Stmt.Runs functions
      (.block ([run "lcd.clear" []] ++ plan.placements.flatMap fun p => drawAt p (column p))) s
      (s.sendAll ([.clear] ++ plan.placements.flatMap fun p =>
        Signal.ofWrite (Frame.drawing plan n p))) := by
  have hclear : Stmt.Runs functions (.block [run "lcd.clear" []]) s (s.sendAll [.clear]) :=
    .block_singleton (.send (hf _ (by decide)) rfl)
  have hdraw : Stmt.Runs functions
      (.block (plan.placements.flatMap fun p => drawAt p (column p))) (s.sendAll [.clear])
      ((s.sendAll [.clear]).sendAll (plan.placements.flatMap fun p =>
        Signal.ofWrite (Frame.drawing plan n p))) := by
    refine .flatMap fun p hmem sent => ?_
    -- the column is computed in a state that differs only in the signals sent so far
    rw [← State.sendAll_sendAll _ sent]
    refine runs_drawAt hf ?_ (hp p hmem)
    rw [State.sendAll_sendAll]
    exact hcolumn p _
  rw [State.sendAll_sendAll] at hdraw
  exact .block_append hclear hdraw

theorem runs_placeAll {functions : Functions} {direction : Direction}
    (hf : functions.Places direction) {s : State} {offset : Nat} (hs : s.Scrolled offset)
    {f : Frame} (hholds : s.Holds "currentFrame" f) {placements : List Placement}
    (hp : ∀ p ∈ placements, p.Drawable) :
    ∃ frames, Stmt.Runs functions
        (.block (placements.map fun p =>
          run "placeGlyph" [.number p.line, .number p.column, .number p.glyph]))
        s { s with frames } ∧
      Rewritten "currentFrame"
        (f.writeAll (placements.map fun p =>
          ⟨p.line, scrollColumn direction p.column offset, some p.glyph⟩)) s.frames frames := by
  induction placements generalizing s f with
  | nil => exact ⟨s.frames, .block_nil, hholds, fun _ _ => rfl⟩
  | cons p placements ih =>
    obtain ⟨meaning, hlookup, hmeaning⟩ := hf
    obtain ⟨frames, hplace, hframes⟩ := hmeaning s offset f p hs hholds (hp p List.mem_cons_self)
    -- placing the first character leaves the globals alone, so the rest finds the same offset
    obtain ⟨frames', hrest, hframes'⟩ := ih (s := { s with frames }) ⟨hs.columns, hs.offset⟩
      hframes.holds fun q hq => hp q (List.mem_cons_of_mem p hq)
    refine ⟨frames', .block_cons (.call hlookup rfl hplace) hrest, hframes'.holds, ?_⟩
    exact fun other hne => (hframes'.others other hne).trans (hframes.others other hne)

end Sketch

/-! ## The memory between rounds -/

namespace Plan

/-- The global variables of the sketch of a plan, when the picture has been scrolled by an offset. -/
def globals (plan : Plan) (offset : Nat) : List (String × Sketch.Variable) :=
  if plan.isAnimated then
    (if plan.isPartial then [("BLANK_SLOT", .number "byte" 255)] else []) ++
      [("scrollOffset", .number "int" offset),
       ("SCROLL_DELAY_MS", .number "unsigned long" plan.intervalMs.toNat),
       ("LCD_COLUMNS", .number "int" lcdColumns)]
  else []

theorem numbered_frameBefore (plan : Plan) (h : ∀ p ∈ plan.placements, p.Drawable) (n : Nat) :
    (plan.frameBefore n).Numbered := by
  cases n with
  | zero => exact Frame.numbered_blank
  | succ n => exact Frame.numbered_ofPlan plan h n

end Plan

namespace Sketch

/-- The memory before a round of the loop. -/
structure Ready (plan : Plan) (n : Nat) (s : State) : Prop where
  globals : s.globals = plan.globals (n % lcdColumns)
  previous : plan.isPartial → s.Holds "previousFrame" (plan.frameBefore n)
  current : plan.isPartial → ∃ f, s.Holds "currentFrame" f

/-- The functions at hand include what the loop of a plan calls. -/
structure Functions.Serve (functions : Functions) (plan : Plan) : Prop where
  library : functions.KeepLibrary
  scrolls : ∀ direction, plan.direction? = some direction → functions.Scrolls direction
  places : plan.isPartial → ∀ direction, plan.direction? = some direction →
    functions.Places direction
  updates : plan.isPartial → functions.Updates

theorem scrolled_of_globals {plan : Plan} {offset : Nat} {s : State} (hanimated : plan.isAnimated)
    (h : s.globals = plan.globals offset) : s.Scrolled offset := by
  constructor
  · rw [h, Plan.globals, if_pos hanimated]
    cases plan.isPartial <;> rfl
  · rw [h, Plan.globals, if_pos hanimated]
    cases plan.isPartial <;> rfl

/-- The offset goes on by one and wraps, and the loop pauses. -/
theorem runs_advance {functions : Functions} (hf : functions.KeepLibrary) {plan : Plan} {n : Nat}
    {s : State} (hlocals : s.locals = []) (hanimated : plan.isAnimated)
    (hglobals : s.globals = plan.globals (n % lcdColumns)) :
    Stmt.Runs functions (.block advance) s
      (State.sendAll { s with globals := plan.globals ((n + 1) % lcdColumns) }
        [.delay plan.intervalMs.toNat]) := by
  have hscrolled := scrolled_of_globals hanimated hglobals
  have hoffset : s.number? "scrollOffset" = some ((n % lcdColumns : Nat) : Int) :=
    State.number?_of_global (by rw [hlocals]; rfl) hscrolled.offset
  have hcolumns : s.number? "LCD_COLUMNS" = some ((lcdColumns : Nat) : Int) :=
    State.number?_of_global (by rw [hlocals]; rfl) hscrolled.columns
  have hnext : (Expr.binary .mod (.parens (.binary .add (.name "scrollOffset") (.number 1)))
      (.name "LCD_COLUMNS")).eval functions s = some (((n + 1) % lcdColumns : Nat) : Int) := by
    have hsum : (Expr.parens (.binary .add (.name "scrollOffset") (.number 1))).eval functions s =
        some (((n % lcdColumns : Nat) : Int) + 1) :=
      Expr.eval_binary (Expr.eval_name hoffset) rfl
    refine (Expr.eval_binary hsum (Expr.eval_name hcolumns)).trans ?_
    rw [Op.eval, if_neg (by decide), Int.tmod_eq_emod_of_nonneg (by omega)]
    congr 1
    simp only [lcdColumns]
    omega
  have hassign : s.assign "scrollOffset" (((n + 1) % lcdColumns : Nat) : Int) =
      some { s with globals := plan.globals ((n + 1) % lcdColumns) } := by
    cases hpartial : plan.isPartial <;>
      simp [State.assign, hlocals, hglobals, Plan.globals, hanimated, hpartial, State.update, fit]
  have hdelay : State.number? { s with globals := plan.globals ((n + 1) % lcdColumns) }
      "SCROLL_DELAY_MS" = some (plan.intervalMs.toNat : Int) := by
    refine State.number?_of_global (by rw [hlocals]; rfl)
      (?_ : (plan.globals ((n + 1) % lcdColumns)).lookup _ = some (.number "unsigned long" _))
    rw [Plan.globals, if_pos hanimated]
    cases plan.isPartial <;> rfl
  exact .block_cons (.assign hnext hassign) (.block_singleton
    (.send (hf _ (by decide)) (signal?_delay (Expr.eval_name hdelay))))

/-- The round of a plan that redraws everything. -/
theorem ofCycle_of_not_isPartial {plan : Plan} (h : plan.isPartial = false) (n pause : Nat) :
    Signal.ofCycle (Cycle.ofPlan plan n) pause =
      [.clear] ++ (plan.placements.flatMap fun p => Signal.ofWrite (Frame.drawing plan n p)) ++
        [.delay pause] := by
  simp [Signal.ofCycle, Cycle.ofPlan_of_not_isPartial h, List.flatMap_map]

/-- The round of a plan that writes only what has changed. -/
theorem ofCycle_of_isPartial {plan : Plan} (h : plan.isPartial = true) (n pause : Nat) :
    Signal.ofCycle (Cycle.ofPlan plan n) pause =
      ((plan.frameBefore n).diff (Frame.ofPlan plan n)).flatMap Signal.ofWrite ++
        [.delay pause] := by
  simp [Signal.ofCycle, Cycle.ofPlan_of_isPartial h]

/-- What a round of the loop brings about: the signals of its cycle have been sent, and the memory
is ready for the next round. -/
structure Round (plan : Plan) (n : Nat) (s t : State) : Prop where
  ready : Ready plan (n + 1) t
  signals : t.signals = s.signals ++ Signal.ofCycle (Cycle.ofPlan plan n) plan.intervalMs.toNat

/-! ## One round for each kind of plan -/

theorem round_static {functions : Functions} {placements : List Placement}
    (hf : functions.Serve (.static placements)) (hp : ∀ p ∈ placements, p.Drawable) {n : Nat}
    {s : State} (h : Ready (.static placements) n s) :
    ∃ t, Stmt.Runs functions (loopBody (.static placements)) s t ∧
      Round (.static placements) n s t := by
  have hdraw := runs_redraw hf.library (.static placements) n (s := s)
    (fun p => .number p.column) (fun p hmem => (hp p hmem).glyph) fun _ _ => rfl
  have hdelay : ∀ t, Stmt.Runs functions (run "delay" [.number staticHoldMs.toNat]) t
      (t.sendAll [.delay staticHoldMs.toNat]) := fun t =>
    .send (hf.library _ (by decide)) (signal?_delay rfl)
  refine ⟨_, .block_append hdraw (.block_singleton (hdelay _)), ⟨h.globals, ?_, ?_⟩, ?_⟩
  · exact fun hpartial => nomatch hpartial
  · exact fun hpartial => nomatch hpartial
  · rw [ofCycle_of_not_isPartial rfl, ← List.append_assoc]
    rfl

theorem round_naive {functions : Functions} {placements : List Placement} {direction : Direction}
    (hf : functions.Serve (.naive placements direction)) (hp : ∀ p ∈ placements, p.Drawable)
    {n : Nat} {s : State} (hlocals : s.locals = []) (h : Ready (.naive placements direction) n s) :
    ∃ t, Stmt.Runs functions (loopBody (.naive placements direction)) s t ∧
      Round (.naive placements direction) n s t := by
  have hscrolled := scrolled_of_globals rfl h.globals
  have hdraw := runs_redraw hf.library (.naive placements direction) n (s := s)
    (fun p => .call "scrollColumn" (.number p.column)) (fun p hmem => (hp p hmem).glyph)
    fun p sent => eval_scrollColumn (hf.scrolls direction rfl)
      ⟨hscrolled.columns, hscrolled.offset⟩ rfl
  refine ⟨_, .block_append hdraw (runs_advance hf.library hlocals rfl h.globals),
    ⟨rfl, ?_, ?_⟩, ?_⟩
  · exact fun hpartial => nomatch hpartial
  · exact fun hpartial => nomatch hpartial
  · rw [ofCycle_of_not_isPartial rfl, ← List.append_assoc]
    rfl

theorem round_buffered {functions : Functions} {placements : List Placement}
    {direction : Direction} {interval : UInt32}
    (hf : functions.Serve (.buffered placements direction interval))
    (hp : ∀ p ∈ placements, p.Drawable) {n : Nat} {s : State} (hlocals : s.locals = [])
    (h : Ready (.buffered placements direction interval) n s) :
    ∃ t, Stmt.Runs functions (loopBody (.buffered placements direction interval)) s t ∧
      Round (.buffered placements direction interval) n s t := by
  have hscrolled := scrolled_of_globals rfl h.globals
  have hblank : s.globals.lookup "BLANK_SLOT" = some (.number "byte" 255) := by
    rw [h.globals]
    rfl
  obtain ⟨f, hcurrent⟩ := h.current rfl
  -- the current frame is emptied and filled again before it is compared with the previous one
  obtain ⟨cleared, hclear, hcleared⟩ := runs_clearFrame functions
    (State.number?_of_global (by rw [hlocals]; rfl) hscrolled.columns)
    (State.number?_of_global (by rw [hlocals]; rfl) hblank) hcurrent
  obtain ⟨placed, hplace, hplaced⟩ := runs_placeAll (hf.places rfl direction rfl)
    (s := { s with frames := cleared }) ⟨hscrolled.columns, hscrolled.offset⟩ hcleared.holds hp
  -- neither touches the previous frame
  have hprevious : placed.lookup "previousFrame" = _ :=
    ((hplaced.others _ (by decide)).trans (hcleared.others _ (by decide))).trans (h.previous rfl)
  obtain ⟨meaning, hlookup, hmeaning⟩ := hf.updates rfl
  obtain ⟨updated, hupdate, hupdated⟩ := hmeaning { s with frames := placed } (n % lcdColumns)
    _ _ ⟨hscrolled.columns, hscrolled.offset⟩ hblank hprevious
    (Plan.numbered_frameBefore (.buffered placements direction interval) hp n)
    hplaced.holds (Frame.numbered_ofPlan (.buffered placements direction interval) hp n)
  refine ⟨_, .block_append (.block_append (.block_append (.block_singleton hclear) hplace)
    (.block_singleton (.call hlookup rfl hupdate)))
    (runs_advance hf.library hlocals rfl h.globals), ⟨rfl, ?_, ?_⟩, ?_⟩
  · exact fun _ => hupdated.holds
  · exact fun _ => ⟨_, (hupdated.others _ (by decide)).trans hplaced.holds⟩
  · rw [ofCycle_of_isPartial rfl, ← List.append_assoc]
    rfl

/-- Whatever the plan, a round sends the signals of its cycle and makes ready for the next. -/
theorem round_of_ready {functions : Functions} {plan : Plan} (hf : functions.Serve plan)
    (hp : ∀ p ∈ plan.placements, p.Drawable) {n : Nat} {s : State} (hlocals : s.locals = [])
    (h : Ready plan n s) :
    ∃ t, Stmt.Runs functions (loopBody plan) s t ∧ Round plan n s t := by
  cases plan with
  | «static» placements => exact round_static hf hp h
  | naive placements direction => exact round_naive hf hp hlocals h
  | buffered placements direction interval => exact round_buffered hf hp hlocals h

end Sketch

end CharLcd
