import CharLcd.Proofs.RowByte
import CharLcd.Proofs.Sketch.Rounds

/-!
# Setup

What `setup` of a sketch sends, and the memory that it leaves for the loop.

- `setupSignals`: the signals that switch the LCD on and hand it the characters.
- `runs_createChars`: handing over the characters.
- `runs_setupBody`: the whole body of `setup`.
-/

namespace CharLcd.Sketch

/-! ## Switching on -/

/-- The signals that switch the LCD on. -/
def powerSignals : Transmission → List Signal
  | .i2c => [.powerOn, .powerOn]
  | .parallel => [.powerOn]

theorem runs_powerOn {functions : Functions} (hf : functions.KeepLibrary)
    (transmission : Transmission) (s : State) :
    Stmt.Runs functions (.block (powerOn transmission)) s
      (s.sendAll (powerSignals transmission)) := by
  cases transmission with
  | i2c =>
    have hinit : Stmt.Runs functions (.call "lcd.init" [] (some "lcd.begin() can also be used")) s
        (s.sendAll [.powerOn]) :=
      .send (hf _ (by decide)) rfl
    have hlight : Stmt.Runs functions (run "lcd.backlight" []) (s.sendAll [.powerOn])
        ((s.sendAll [.powerOn]).sendAll [.powerOn]) :=
      .send (hf _ (by decide)) rfl
    rw [State.sendAll_sendAll] at hlight
    exact .block_cons hinit (.block_singleton hlight)
  | parallel => exact .block_singleton (.send (hf _ (by decide)) rfl)

/-! ## The characters -/

/-- The signal that hands a character to the LCD. -/
def charSignal (e : Nat × Bitmap) : Signal := .createChar e.1 e.2.bytes

/-- The bytes of a bitmap as a sketch holds them. -/
def tableOf (b : Bitmap) : List Int := b.bytes.map fun byte : Nat => (byte : Int)

theorem mapM_eval_bytes (functions : Functions) (s : State) (format : NumberFormat) (b : Bitmap) :
    (b.bytes.map (Expr.byte format)).mapM (Expr.eval functions s) = some (tableOf b) := by
  rw [List.mapM_map]
  exact mapM_eq_pure_map (m := Option) fun _ _ => rfl

/-- A row of five pixels fits into a byte. -/
theorem map_fit_tableOf (b : Bitmap) : (tableOf b).map (fit "byte") = tableOf b := by
  rw [tableOf, List.map_map]
  refine List.map_congr_left ?_
  intro byte hbyte
  obtain ⟨row, -, rfl⟩ := List.mem_map.mp hbyte
  have hlt : row.byte < 32 := row.byte_lt
  simp only [Function.comp_apply, fit]
  omega

theorem mapM_natural?_tableOf (b : Bitmap) : (tableOf b).mapM natural? = some b.bytes := by
  rw [tableOf, List.mapM_map]
  refine (mapM_eq_pure_map (m := Option) fun byte _ => natural?_natCast byte).trans ?_
  rw [List.map_id']
  rfl

theorem runs_createChar {functions : Functions} (hf : functions.KeepLibrary)
    (format : NumberFormat) (s : State) (i : Nat) (b : Bitmap) :
    Stmt.Runs functions (.block (createChar format i b)) s
      ((s.declare (charName i) (.table (tableOf b))).sendAll [charSignal (i, b)]) := by
  have htable : Stmt.Runs functions (.table (charName i) (b.bytes.map (.byte format))) s
      (s.declare (charName i) (.table (tableOf b))) := by
    rw [← map_fit_tableOf]
    exact .table (mapM_eval_bytes ..)
  have hbytes : (s.declare (charName i) (.table (tableOf b))).table? (charName i) =
      some (tableOf b) := by
    simp [State.table?, State.get?, State.declare]
  have hsignal : signal? functions (s.declare (charName i) (.table (tableOf b))) "lcd.createChar"
      [.number i, .name (charName i)] = some (charSignal (i, b)) := by
    simp [signal?, Expr.eval, hbytes, mapM_natural?_tableOf, charSignal]
  exact .block_cons rfl (.block_cons rfl (.block_cons htable
    (.block_singleton (.send (hf _ (by decide)) hsignal))))

/-- Tables of characters hide no name that does not begin like theirs. -/
theorem lookup_charNames {tables : List (String × Variable)}
    (h : ∀ e ∈ tables, ∃ i, e.1 = charName i) {name : String}
    (hname : name.toList.head? ≠ some 'c') : tables.lookup name = none := by
  rw [List.lookup_eq_none_iff]
  intro e he
  obtain ⟨i, hi⟩ := h e he
  rw [bne_iff_ne]
  rintro rfl
  rw [hi, charName, String.toList_append] at hname
  exact hname rfl

/-- The characters are handed over in order, and their tables are left among the local variables. -/
theorem runs_createChars {functions : Functions} (hf : functions.KeepLibrary)
    (format : NumberFormat) (entries : List (Nat × Bitmap)) (s : State) :
    ∃ tables, Stmt.Runs functions (.block (entries.flatMap fun e => createChar format e.1 e.2)) s
        (State.sendAll { s with locals := tables ++ s.locals } (entries.map charSignal)) ∧
      ∀ e ∈ tables, ∃ i, e.1 = charName i := by
  induction entries generalizing s with
  | nil =>
    refine ⟨[], ?_, fun _ h => nomatch h⟩
    rw [List.map_nil, State.sendAll_nil]
    exact .block_nil
  | cons e entries ih =>
    obtain ⟨i, b⟩ := e
    obtain ⟨tables, hrun, htables⟩ :=
      ih ((s.declare (charName i) (.table (tableOf b))).sendAll [charSignal (i, b)])
    refine ⟨tables ++ [(charName i, .table (tableOf b))], ?_, ?_⟩
    · have hboth := Stmt.Runs.block_append (runs_createChar hf format s i b) hrun
      rw [List.flatMap_cons, List.append_assoc]
      have hsame : State.sendAll { s with locals := tables ++ ([(charName i, .table (tableOf b))] ++
          s.locals) } (((i, b) :: entries).map charSignal) =
          State.sendAll { (s.declare (charName i) (.table (tableOf b))).sendAll
            [charSignal (i, b)] with locals := tables ++ (charName i, .table (tableOf b)) ::
              s.locals } (entries.map charSignal) := by
        simp [State.sendAll, State.declare]
      rw [hsame]
      exact hboth
    · intro e he
      rcases List.mem_append.mp he with he | he
      · exact htables e he
      · exact ⟨i, by rw [List.mem_singleton.mp he]⟩

/-! ## The whole body -/

/-- The signals of `setup`. -/
def setupSignals (t : GlyphTable) (plan : Plan) (o : Options) : List Signal :=
  powerSignals o.transmission ++ t.entries.map charSignal ++
    (if plan.isPartial then [.clear] else [])

/-- The memory that `setup` leaves: a buffered sketch has emptied its previous frame. -/
structure SetUp (plan : Plan) (s t : State) (sent : List Signal) : Prop where
  globals : t.globals = s.globals
  previous : plan.isPartial → t.Holds "previousFrame" Frame.blank
  others : ∀ other, other ≠ "previousFrame" → t.frames.lookup other = s.frames.lookup other
  signals : t.signals = s.signals ++ sent

theorem runs_setupBody (functions : Functions) (hf : functions.KeepLibrary) (t : GlyphTable)
    {plan : Plan} (o : Options) {s : State} (hlocals : s.locals = [])
    (hglobals : s.globals = plan.globals 0)
    (hframe : plan.isPartial → ∃ f, s.Holds "previousFrame" f) :
    ∃ u, Stmt.Runs functions (setupBody t plan o) s u ∧
      SetUp plan s u (setupSignals t plan o) := by
  obtain ⟨tables, hchars, htables⟩ := runs_createChars hf o.numberFormat t.entries
    (s.sendAll (powerSignals o.transmission))
  let u : State := State.sendAll { s.sendAll (powerSignals o.transmission) with
    locals := tables ++ s.locals } (t.entries.map charSignal)
  have hfirst := Stmt.Runs.block_append (runs_powerOn hf o.transmission s) hchars
  have hsent (more : List Signal) : (s.signals ++ powerSignals o.transmission ++
      t.entries.map charSignal) ++ more =
      s.signals ++ (powerSignals o.transmission ++ t.entries.map charSignal ++ more) := by
    rw [List.append_assoc, List.append_assoc, List.append_assoc]
  cases hpartial : plan.isPartial with
  | false =>
    have hrest : Stmt.Runs functions (.block (if plan.isPartial then
        [.blank, clearFrame "previousFrame", run "lcd.clear" []] else [])) u u := by
      rw [hpartial]
      exact .block_nil
    refine ⟨_, .block_append hfirst hrest, rfl, ?_, fun _ _ => rfl, ?_⟩
    · exact fun h => absurd h (by rw [hpartial]; decide)
    · rw [setupSignals, hpartial, ← hsent]
      exact (List.append_nil _).symm
  | true =>
    have hanimated : plan.isAnimated := by
      cases plan <;> first | rfl | cases hpartial
    -- the tables of the characters are still in scope, but their names all begin with `c`
    have hhidden : ∀ name : String, name.toList.head? ≠ some 'c' → u.locals.lookup name = none := by
      intro name hname
      show (tables ++ s.locals).lookup name = none
      rw [lookup_append_of_none (lookup_charNames htables hname), hlocals]
      rfl
    have hcolumns : u.number? "LCD_COLUMNS" = some ((lcdColumns : Nat) : Int) :=
      State.number?_of_global (hhidden _ (by decide)) (scrolled_of_globals hanimated hglobals).columns
    have hblank : u.number? "BLANK_SLOT" = some 255 := by
      refine State.number?_of_global (hhidden _ (by decide))
        (?_ : s.globals.lookup _ = some (.number "byte" _))
      rw [hglobals, Plan.globals, if_pos hanimated, if_pos hpartial]
      rfl
    obtain ⟨f, hf'⟩ := hframe hpartial
    obtain ⟨frames, hclear, hframes⟩ := runs_clearFrame functions (s := u)
      hcolumns hblank hf'
    have hlast : Stmt.Runs functions (run "lcd.clear" []) { u with frames }
        (State.sendAll { u with frames } [.clear]) :=
      .send (hf _ (by decide)) rfl
    have hrest : Stmt.Runs functions (.block (if plan.isPartial then
        [.blank, clearFrame "previousFrame", run "lcd.clear" []] else [])) u
        (State.sendAll { u with frames } [.clear]) := by
      rw [if_pos hpartial]
      exact .block_cons rfl (.block_cons hclear (.block_singleton hlast))
    refine ⟨_, .block_append hfirst hrest, rfl, fun _ => hframes.holds, hframes.others, ?_⟩
    · rw [setupSignals, hpartial, if_pos rfl, ← hsent]
      rfl

end CharLcd.Sketch
