import CharLcd.Proofs.Sketch.Setup

/-!
# Execution of a sketch

The sketch of a table of characters and a plan, from loading it to any number of
rounds of its loop.

- `prepared_preamble`: what stands before `setup` provides for the loop.
- `Playing`: a sketch between two rounds.
- `run_setup`, `run_loop`: one run of `setup`, and one of `loop`.
- `after_build`: `setup` and any number of rounds.
-/

namespace CharLcd.Sketch

/-! ## Functions at hand -/

theorem lookup_cons_of_ne {functions : Functions} {name other : String} {meaning : Meaning}
    (h : other ≠ name) : List.lookup other ((name, meaning) :: functions) =
      functions.lookup other := by
  rw [List.lookup_cons, beq_eq_false_iff_ne.mpr h]

namespace Functions

variable {functions : Functions} {name : String} {meaning : Meaning} {direction : Direction}

theorem Scrolls.cons (h : functions.Scrolls direction) (hname : "scrollColumn" ≠ name) :
    Functions.Scrolls ((name, meaning) :: functions) direction := by
  rw [Scrolls, lookup_cons_of_ne hname]
  exact h

theorem Places.cons (h : functions.Places direction) (hname : "placeGlyph" ≠ name) :
    Functions.Places ((name, meaning) :: functions) direction := by
  rw [Places, lookup_cons_of_ne hname]
  exact h

theorem Updates.cons (h : functions.Updates) (hname : "updateDisplay" ≠ name) :
    Functions.Updates ((name, meaning) :: functions) := by
  rw [Updates, lookup_cons_of_ne hname]
  exact h

/-- Functions with names of their own do not get in the way of the helpers. -/
theorem Serve.cons {plan : Plan} (h : functions.Serve plan) (hlibrary : name ∉ libraryNames)
    (hhelper : name ∉ ["scrollColumn", "placeGlyph", "updateDisplay"]) :
    Functions.Serve ((name, meaning) :: functions) plan := by
  have hne : ∀ helper ∈ ["scrollColumn", "placeGlyph", "updateDisplay"], helper ≠ name :=
    fun helper hmem heq => hhelper (heq ▸ hmem)
  constructor
  · exact h.library.cons hlibrary
  · exact fun direction hd => (h.scrolls direction hd).cons (hne _ (by decide))
  · exact fun hp direction hd => (h.places hp direction hd).cons (hne _ (by decide))
  · exact fun hp => (h.updates hp).cons (hne _ (by decide))

end Functions

/-! ## Before setup -/

/-- The items that stand before `setup`. -/
def preamble (plan : Plan) (o : Options) : Program :=
  connection o.transmission ++
  (match plan.direction? with
    | some direction => scrollItems plan direction
    | none => [])

/-- What is loaded provides for `setup` and the loop of a plan. -/
structure Prepared (plan : Plan) (l : Loaded) : Prop where
  serve : l.functions.Serve plan
  globals : l.state.globals = plan.globals 0
  previous : plan.isPartial → ∃ f, l.state.Holds "previousFrame" f
  current : plan.isPartial → ∃ f, l.state.Holds "currentFrame" f

theorem foldl_add_connection (l : Loaded) (transmission : Transmission) :
    (connection transmission).foldl Loaded.add l = l := by
  cases transmission <;> rfl

theorem load_preamble (plan : Plan) (o : Options) :
    (preamble plan o).load =
      (match plan.direction? with
        | some direction => scrollItems plan direction
        | none => []).foldl Loaded.add ⟨[], State.initial⟩ := by
  rw [Program.load, preamble, List.foldl_append, foldl_add_connection]

/-- A new array holds the frame that shows the first character everywhere. -/
theorem replicate_zero_eq_bytes :
    (Grid.replicate 0 : Grid lcdLines lcdColumns Int) =
      Frame.bytes (Grid.replicate (some 0)) := by
  apply Grid.ext_get
  intro line column
  rw [Frame.get_bytes, Grid.get_replicate, Grid.get_replicate]
  rfl

/-- What stands before `setup` provides for it and for the loop. -/
theorem prepared_preamble (plan : Plan) (o : Options) : Prepared plan (preamble plan o).load := by
  rw [load_preamble]
  cases plan with
  | «static» placements =>
    refine ⟨⟨keepLibrary_nil, ?_, ?_, ?_⟩, rfl, ?_, ?_⟩
    · exact fun direction h => nomatch h
    · exact fun h => nomatch h
    · exact fun h => nomatch h
    · exact fun h => nomatch h
    · exact fun h => nomatch h
  | naive placements direction =>
    refine ⟨⟨keepLibrary_nil.cons (by decide), ?_, ?_, ?_⟩, rfl, ?_, ?_⟩
    · rintro _ ⟨⟩
      exact scrolls_add ⟨[], _⟩ direction
    · exact fun h => nomatch h
    · exact fun h => nomatch h
    · exact fun h => nomatch h
    · exact fun h => nomatch h
  | buffered placements direction interval =>
    -- the helpers stand in the order in which they use each other
    have hscrolls : ∀ s, (Loaded.add ⟨[], s⟩ (scrollFunction direction)).functions.Scrolls direction :=
      fun s => scrolls_add ⟨[], s⟩ direction
    have hplaces : ∀ s, ((Loaded.add ⟨[], s⟩ (scrollFunction direction)).add
        placeFunction).functions.Places direction :=
      fun s => places_add _ (hscrolls s)
    have hlibrary : ∀ s, ((Loaded.add ⟨[], s⟩ (scrollFunction direction)).add
        placeFunction).functions.KeepLibrary :=
      fun s => (keepLibrary_nil.cons (by decide)).cons (by decide)
    refine ⟨⟨(hlibrary _).cons (by decide), ?_, ?_, ?_⟩, rfl, ?_, ?_⟩
    · rintro _ ⟨⟩
      exact ((hscrolls _).cons (by decide)).cons (by decide)
    · rintro - _ ⟨⟩
      exact (hplaces _).cons (by decide)
    · exact fun _ => updates_add _ (hlibrary _)
    · exact fun _ => ⟨_, congrArg some replicate_zero_eq_bytes⟩
    · exact fun _ => ⟨_, congrArg some replicate_zero_eq_bytes⟩

/-! ## One run of a function -/

/-- A sketch between two rounds of its loop. -/
structure Playing (plan : Plan) (n : Nat) (l : Loaded) : Prop where
  loop : ∃ functions : Functions, functions.Serve plan ∧
    l.functions.lookup "loop" = some (meaningOf functions [] (loopBody plan))
  ready : Ready plan n l.state

theorem run_eq_some {l : Loaded} {name : String} {meaning : Meaning} {t : State} {result : Int}
    (hlookup : l.functions.lookup name = some meaning)
    (hmeaning : meaning [] { l.state with signals := [] } = some (t, result)) :
    l.run name = some { l with state := t } := by
  show ((l.functions.lookup name).bind fun meaning =>
    (meaning [] { l.state with signals := [] }).bind fun r => some { l with state := r.1 }) = _
  rw [hlookup, Option.bind_some, hmeaning, Option.bind_some]

/-- Running a function that neither takes nor returns anything. -/
theorem run_of_runs {l : Loaded} {name : String} {functions : Functions} {body : Stmt} {t : State}
    (hlookup : l.functions.lookup name = some (meaningOf functions [] body))
    (hrun : body.Runs functions { l.state with locals := [], signals := [] } t) :
    l.run name = some { l with state := { t with locals := l.state.locals } } :=
  run_eq_some hlookup (meaningOf_eq (s := { l.state with signals := [] }) rfl hrun)

theorem run_setup (t : GlyphTable) (plan : Plan) (o : Options) :
    ∃ l, (Program.build t plan o).load.run "setup" = some l ∧ Playing plan 0 l ∧
      l.state.signals = setupSignals t plan o := by
  obtain ⟨hserve, hglobals, hprevious, hcurrent⟩ := prepared_preamble plan o
  -- `setup` runs with what is loaded before it; `loop` comes after it and is not seen
  let before := (preamble plan o).load
  have hload : (Program.build t plan o).load =
      (before.add (.function "void" "setup" [] (setupBody t plan o))).add
        (.function "void" "loop" [] (loopBody plan)) := by
    show (preamble plan o ++ _ : Program).foldl Loaded.add _ = _
    rw [List.foldl_append]
    rfl
  obtain ⟨u, hrun, hu⟩ := runs_setupBody before.functions hserve.library t o
    (s := { before.state with locals := [], signals := [] }) rfl hglobals hprevious
  rw [hload]
  refine ⟨_, run_of_runs rfl hrun, ⟨⟨_, ?_, rfl⟩, ⟨?_, ?_, ?_⟩⟩, ?_⟩
  · exact hserve.cons (by decide) (by decide)
  · exact hu.globals.trans hglobals
  · exact hu.previous
  · intro hpartial
    obtain ⟨f, hf⟩ := hcurrent hpartial
    exact ⟨f, (hu.others _ (by decide)).trans hf⟩
  · exact hu.signals

/-- One run of `loop` sends the signals of a cycle. -/
theorem run_loop {plan : Plan} (hp : ∀ p ∈ plan.placements, p.Drawable) {n : Nat} {l : Loaded}
    (h : Playing plan n l) :
    ∃ l', l.run "loop" = some l' ∧ Playing plan (n + 1) l' ∧
      l'.state.signals = Signal.ofCycle (Cycle.ofPlan plan n) plan.intervalMs.toNat := by
  obtain ⟨functions, hserve, hlookup⟩ := h.loop
  obtain ⟨u, hrun, hu⟩ := round_of_ready hserve hp
    (s := { l.state with locals := [], signals := [] }) rfl
    ⟨h.ready.globals, h.ready.previous, h.ready.current⟩
  refine ⟨_, run_of_runs hlookup hrun, ⟨⟨functions, hserve, hlookup⟩, ?_⟩, hu.signals⟩
  exact ⟨hu.ready.globals, hu.ready.previous, hu.ready.current⟩

/-! ## Any number of rounds -/

namespace Lcd

/-- The row bytes of the characters of a table, those given last first. -/
def patternsOf (t : GlyphTable) : List (Nat × List Nat) :=
  (t.entries.map fun e => (e.1, e.2.bytes)).reverse

theorem receiveAll_charSignals (d : Lcd) (entries : List (Nat × Bitmap)) :
    d.receiveAll (entries.map charSignal) =
      { d with patterns := (entries.map fun e => (e.1, e.2.bytes)).reverse ++ d.patterns } := by
  induction entries generalizing d with
  | nil => rfl
  | cons e entries ih =>
    rw [List.map_cons, receiveAll_cons, ih]
    simp [receive, charSignal]

/-- `setup` hands over the characters and leaves the slots blank. -/
theorem receiveAll_setupSignals (t : GlyphTable) (plan : Plan) (o : Options) :
    initial.receiveAll (setupSignals t plan o) = ⟨patternsOf t, Frame.blank, 0, 0⟩ := by
  have hpower : initial.receiveAll (powerSignals o.transmission) = initial := by
    cases o.transmission <;> rfl
  rw [setupSignals, receiveAll_append, receiveAll_append, hpower, receiveAll_charSignals, patternsOf]
  cases plan.isPartial <;> simp [initial, receive]

theorem patterns_receiveAll_flatMap_ofWrite (d : Lcd) (ws : List SlotWrite) :
    (d.receiveAll (ws.flatMap Signal.ofWrite)).patterns = d.patterns := by
  induction ws generalizing d with
  | nil => rfl
  | cons w ws ih =>
    obtain ⟨line, column, slot⟩ := w
    rw [List.flatMap_cons, receiveAll_append, ih]
    cases slot <;> rfl

/-- A round changes no character. -/
theorem patterns_receiveAll_ofCycle (d : Lcd) (c : Cycle) (pause : Nat) :
    (d.receiveAll (Signal.ofCycle c pause)).patterns = d.patterns := by
  rw [Signal.ofCycle, receiveAll_append, receiveAll_append, receiveAll_cons, receiveAll_nil]
  refine (patterns_receiveAll_flatMap_ofWrite _ _).trans ?_
  cases c.clears <;> rfl

/-- The LCD has the characters of a table and shows what a plan has drawn. -/
structure Shows (t : GlyphTable) (plan : Plan) (n : Nat) (d : Lcd) : Prop where
  patterns : d.patterns = patternsOf t
  frame : d.frame = plan.frameBefore n

theorem shows_initial (t : GlyphTable) (plan : Plan) (o : Options) :
    Shows t plan 0 (initial.receiveAll (setupSignals t plan o)) := by
  rw [receiveAll_setupSignals]
  exact ⟨rfl, rfl⟩

/-- After the signals of a round the LCD shows its frame. -/
theorem Shows.receiveAll_ofCycle {t : GlyphTable} {plan : Plan} {n : Nat} {d : Lcd}
    (h : Shows t plan n d) (pause : Nat) :
    Shows t plan (n + 1) (d.receiveAll (Signal.ofCycle (Cycle.ofPlan plan n) pause)) := by
  constructor
  · rw [patterns_receiveAll_ofCycle, h.patterns]
  · rw [frame_receiveAll_ofCycle, h.frame, Cycle.writeAll_ofPlan]
    rfl

end Lcd

/-- One round more. -/
theorem Program.after_succ (p : Program) (n : Nat) :
    p.after (n + 1) = (p.after n).bind fun r =>
      (r.1.run "loop").bind fun l => some (l, r.2.receiveAll l.state.signals) := by
  show ((p.load.run "setup").bind fun l => Loaded.rounds (n + 1) _) =
    Option.bind ((p.load.run "setup").bind fun l => Loaded.rounds n _) _
  cases p.load.run "setup" <;> rfl

/-- After any number of rounds the sketch is ready for the next, and the LCD shows what the plan
has drawn. -/
theorem after_build (t : GlyphTable) {plan : Plan} (o : Options)
    (hp : ∀ p ∈ plan.placements, p.Drawable) (n : Nat) :
    ∃ l d, (Program.build t plan o).after n = some (l, d) ∧ Playing plan n l ∧
      d.Shows t plan n := by
  induction n with
  | zero =>
    obtain ⟨l, hsetup, hplaying, hsignals⟩ := run_setup t plan o
    refine ⟨l, Lcd.initial.receiveAll l.state.signals, ?_, hplaying, ?_⟩
    · rw [Program.after, hsetup]
      rfl
    · rw [hsignals]
      exact Lcd.shows_initial t plan o
  | succ n ih =>
    -- `Playing` is what one round needs and leaves, and `Shows` what its signals bring about
    obtain ⟨l, d, hafter, hplaying, hshows⟩ := ih
    obtain ⟨l', hrun, hnext, hsent⟩ := run_loop hp hplaying
    refine ⟨l', d.receiveAll l'.state.signals, ?_, hnext, ?_⟩
    · rw [Program.after_succ, hafter, Option.bind_some, hrun, Option.bind_some]
    · rw [hsent]
      exact hshows.receiveAll_ofCycle _

/-- A round sends the signals of its cycle. -/
theorem signals_build (t : GlyphTable) {plan : Plan} (o : Options)
    (hp : ∀ p ∈ plan.placements, p.Drawable) (n : Nat) :
    (Program.build t plan o).signals n =
      some (Signal.ofCycle (Cycle.ofPlan plan n) plan.intervalMs.toNat) := by
  obtain ⟨l, d, hafter, hplaying, -⟩ := after_build t o hp n
  obtain ⟨l', hrun, -, hsent⟩ := run_loop hp hplaying
  rw [Program.signals, Program.after_succ, hafter, Option.bind_some, hrun, Option.bind_some,
    Option.map_some, hsent]

end CharLcd.Sketch
