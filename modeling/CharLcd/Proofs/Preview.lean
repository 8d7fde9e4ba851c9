import CharLcd.Preview
import CharLcd.Proofs.LcdView
import CharLcd.Proofs.Menu

/-!
# What the standalone preview leaves on the screen

The preview draws on each tick only the slots that change, on a screen that has been drawn to since
it was cleared. Nothing shows on it that drawing everything anew would not show.

- `Preview.Move`, `Preview.moves`: something that happens to a preview, and what a run draws;
  `Preview.moves_rounds` says that rounds of the program are runs, and `Preview.tick_moves_le` how
  far a run can get.
- `Preview.OnStatusLine`: the only positions that drawing the status line changes.
- `Preview.Shows`: the screen is as if everything had been drawn anew; one lemma for each way that
  the preview draws, and `Shows.moves` for runs.
- `Preview.repaint_eq_redraw`: what a run leaves on the screen.
-/

namespace CharLcd

open Terminal

namespace Preview

/-! ## Runs -/

/-- Only the task starts. -/
theorem resume_eq (p : Preview) (now : Time) :
    p.resume now = { p with task := (p.resume now).task } := by
  unfold resume
  split <;> rfl

/-- Something that happens to a preview. -/
inductive Move where
  | event (now : Time) (e : Event)
  /-- The task fires if it is due. -/
  | poll (now : Time)

/-- What a move does to a preview and draws; `none` when the preview quits. -/
def move (size : Size) (p : Preview) : Move → Option (Preview × List Command)
  | .event now e => p.handle now size e
  | .poll now => some (p.poll now size)

/-- The preview after a run, and all that is drawn in it. Nothing happens after it has quit. -/
def moves (size : Size) (p : Preview) : List Move → Preview × List Command
  | [] => (p, [])
  | m :: ms =>
    match p.move size m with
    | none => (p, [])
    | some (p, drawn) =>
      let (p, more) := moves size p ms
      (p, drawn ++ more)

/-- The program draws what a run of events and polls in turn draws. -/
theorem moves_rounds (now : Time) (size : Size) (p : Preview) (events : List Event) :
    (p.moves size (events.flatMap fun e => [.event now e, .poll now])).2 =
      p.runEvents now size events := by
  induction events generalizing p with
  | nil => rfl
  | cons e rest ih =>
    rw [List.flatMap_cons, List.cons_append, moves, runEvents, step, move]
    cases p.handle now size e with
    | none => rfl
    | some r =>
      simp only [List.singleton_append, moves, move]
      rw [ih, List.append_assoc]

theorem tick_press_le {p : Preview} {now : Time} {size : Size} {code : KeyCode}
    {r : Preview × List Command} (h : p.press now size code = some r) : r.1.tick ≤ p.tick + 1 := by
  unfold Preview.press at h
  split at h
  next => cases h
  next => cases h
  next =>
    cases h
    split
    next => exact Nat.le_succ _
    next =>
      rw [resume_eq]
      exact Nat.le_succ _
  next =>
    cases h
    exact Nat.le_refl _
  next =>
    cases h
    exact Nat.le_trans (Nat.sub_le _ _) (Nat.le_succ _)
  next =>
    cases h
    exact Nat.zero_le _
  next =>
    cases h
    exact Nat.le_succ _

theorem tick_move_le {size : Size} {p : Preview} {m : Move} {r : Preview × List Command}
    (h : p.move size m = some r) : r.1.tick ≤ p.tick + 1 := by
  cases m with
  | poll now =>
    cases h
    unfold Preview.poll
    dsimp only
    split
    next => exact Nat.le_refl _
    next => exact Nat.le_succ _
  | event now e =>
    cases e with
    | key k => exact tick_press_le h
    | _ =>
      cases h
      exact Nat.le_succ _

/-- A move adds one tick at most. -/
theorem tick_moves_le (size : Size) (p : Preview) (ms : List Move) :
    (p.moves size ms).1.tick ≤ p.tick + ms.length := by
  induction ms generalizing p with
  | nil => exact Nat.le_refl _
  | cons m ms ih =>
    unfold moves
    split
    next => exact Nat.le_add_right _ _
    next after drawn hmove =>
      calc (after.moves size ms).1.tick
          ≤ after.tick + ms.length := ih after
        _ ≤ p.tick + 1 + ms.length := Nat.add_le_add_right (tick_move_le hmove) _
        _ = p.tick + (m :: ms).length := by
          rw [List.length_cons, Nat.add_right_comm, Nat.add_assoc]

/-! ## The menu and the status line -/

theorem drawMenu_eq :
    drawMenu =
      [.moveTo 0 0, .clearLine, .print " "] ++
        (Menu.draw "[Space] play/pause" false ++ [.print "  "] ++
        (Menu.draw "[←][→] step" false ++ [.print "  "] ++
        (Menu.draw "[Home] first" false ++ [.print "  "] ++ Menu.draw "[q][Esc] quit" false))) := by
  simp only [drawMenu, menuItems, List.map_cons, List.map_nil, List.intercalate_cons_cons,
    List.intercalate_singleton]

theorem stayPlain_drawMenu : Screen.StayPlain drawMenu := by
  have htext (text : String) : Screen.StayPlain [.print text] :=
    fun _ hs => (Screen.look_print _ _).trans hs
  rw [drawMenu_eq]
  refine Screen.StayPlain.append (Screen.stayPlain_of_isPlain (by simp [Command.isPlain])) ?_
  exact ((Menu.stayPlain_draw _ _).append (htext _)).append
    (((Menu.stayPlain_draw _ _).append (htext _)).append
      (((Menu.stayPlain_draw _ _).append (htext _)).append (Menu.stayPlain_draw _ _)))

theorem keepsTo_of_mem_drawMenu {c : Command} (hc : c ∈ drawMenu) : c.KeepsTo (· = 0) := by
  rw [drawMenu_eq] at hc
  simp only [List.mem_append, List.mem_cons, List.not_mem_nil, or_false] at hc
  rcases hc with (rfl | rfl | rfl) | (h | rfl) | (h | rfl) | (h | rfl) | h
  all_goals first
    | exact Command.keepsTo_of_isText (Menu.isText_of_mem_draw h) _
    | trivial

/-- The positions of the status line, if the terminal has room for it. -/
def OnStatusLine (size : Size) (x : Position) : Prop := x.row = statusRow ∧ statusRow < size.height

section

variable (p : Preview) (size : Size) {s t : Screen} {x : Position}

theorem stayPlain_drawStatus : Screen.StayPlain (p.drawStatus size) := by
  unfold drawStatus
  split
  next => exact fun _ hs => hs
  next => exact Screen.stayPlain_of_isPlain (by simp [Command.isPlain])

/-- Drawing the status line leaves all other positions alone. -/
theorem cell_run_drawStatus (hx : ¬ OnStatusLine size x) :
    (s.run (p.drawStatus size)).cell x = s.cell x := by
  unfold drawStatus
  split
  next => rfl
  next hroom =>
    have hrow : x.row ≠ statusRow := fun h => hx ⟨h, Nat.lt_of_not_le hroom⟩
    have hkeeps : ∀ c ∈ [Command.moveTo 0 statusRow, .clearLine, .styled { dim := true } p.status],
        c.KeepsTo (· = statusRow) := by
      simp [Command.KeepsTo]
    exact Screen.cell_run_moveTo_of_keepsTo hkeeps hrow

/-- What stood on the status line before it is drawn does not matter. -/
theorem cell_run_drawStatus_congr (hsize : s.size = t.size) (hlook : s.look = t.look)
    (hcell : ¬ OnStatusLine size x → s.cell x = t.cell x) :
    (s.run (p.drawStatus size)).cell x = (t.run (p.drawStatus size)).cell x := by
  by_cases hx : OnStatusLine size x
  · have hroom : ¬ size.height ≤ statusRow := Nat.not_le.mpr hx.2
    simp only [drawStatus, if_neg hroom]
    have hcleared : Screen.AgreeAt (s.run [.moveTo 0 statusRow, .clearLine])
        (t.run [.moveTo 0 statusRow, .clearLine]) x := by
      refine { size_eq := hsize, cursor_eq := rfl, look_eq := hlook, cell_eq := ?_ }
      exact (if_pos hx.1).trans (if_pos hx.1).symm
    exact (hcleared.run [.styled { dim := true } p.status]).cell_eq
  · rw [cell_run_drawStatus p size hx, cell_run_drawStatus p size hx, hcell hx]

end

/-! ## Screens -/

/-- The frame is that of the tick, and the screen is as if everything had been drawn anew. -/
structure Shows (c : Compiled) (size : Size) (p : Preview) (s : Screen) : Prop where
  compiled_eq : p.compiled = c
  frame_eq : p.frame = c.frame p.tick
  size_eq : s.size = size
  look_eq : s.look = {}
  cell_eq : ∀ x, s.cell x = ((Screen.blank size).run (p.drawScreen size)).cell x

section

variable {c : Compiled} {size : Size} {p : Preview} {s : Screen} {x : Position}

theorem stayPlain_drawScreen (p : Preview) (size : Size) :
    Screen.StayPlain (p.drawScreen size) :=
  (stayPlain_drawMenu.append (LcdView.stayPlain_drawLcd _ _ _)).append (p.stayPlain_drawStatus size)

/-- The cursor is moved first. -/
theorem exists_drawScreen_eq (p : Preview) (size : Size) :
    ∃ rest, p.drawScreen size = .moveTo 0 0 :: rest := by
  rw [drawScreen, drawMenu_eq]
  exact ⟨_, rfl⟩

/-- On a screen on which nothing stands everything is drawn. -/
theorem shows_drawScreen (hcompiled : p.compiled = c) (hframe : p.frame = c.frame p.tick)
    (hsize : s.size = size) (hlook : s.look = {}) (hcell : ∀ x, s.cell x = {}) :
    Shows c size p (s.run (p.drawScreen size)) where
  compiled_eq := hcompiled
  frame_eq := hframe
  size_eq := by rw [Screen.size_run, hsize]
  look_eq := p.stayPlain_drawScreen size s hlook
  cell_eq x := by
    obtain ⟨rest, hrest⟩ := p.exists_drawScreen_eq size
    rw [hrest]
    exact Screen.cell_run_moveTo_congr hsize hlook (hcell x) 0 0 rest

/-- Beside the status line the screen shows the menu and the LCD. -/
theorem Shows.cell_panels (h : Shows c size p s) (hx : ¬ OnStatusLine size x) :
    s.cell x = ((Screen.blank size).run (drawMenu ++ p.drawAll)).cell x := by
  rw [h.cell_eq x, drawScreen, Screen.run_append, cell_run_drawStatus p size hx]

/-- On a screen that shows the menu and the LCD the status line is all that is to be drawn. -/
theorem shows_drawStatus (hcompiled : p.compiled = c) (hframe : p.frame = c.frame p.tick)
    (hsize : s.size = size) (hlook : s.look = {})
    (hcell : ∀ x, ¬ OnStatusLine size x →
      s.cell x = ((Screen.blank size).run (drawMenu ++ p.drawAll)).cell x) :
    Shows c size p (s.run (p.drawStatus size)) where
  compiled_eq := hcompiled
  frame_eq := hframe
  size_eq := by rw [Screen.size_run, hsize]
  look_eq := p.stayPlain_drawStatus size s hlook
  cell_eq x := by
    rw [drawScreen, Screen.run_append]
    refine p.cell_run_drawStatus_congr size ?_ ?_ (hcell x)
    · rw [hsize, Screen.size_run]
      rfl
    · rw [hlook]
      exact (stayPlain_drawMenu.append (LcdView.stayPlain_drawLcd _ _ _) _ rfl).symm

/-! ## Steps -/

/-- Going to a tick draws the slots that change, and the status line. -/
theorem Shows.goTo (h : Shows c size p s) (tick : Nat) :
    Shows c size (p.goTo size tick).1 (s.run (p.goTo size tick).2) := by
  obtain ⟨next, hnext⟩ : ∃ next, next = p.compiled.frame tick := ⟨_, rfl⟩
  have hgoTo : p.goTo size tick =
      ({ p with tick, frame := next },
        LcdView.drawSlots (fun q => p.compiled.glyphs.show? (next.get q.1 q.2)) (fun _ => false)
          lcdBox (p.frame.changed next) ++
        { p with tick, frame := next }.drawStatus size) := by
    simp only [Preview.goTo, Frame.diff_eq_map, List.flatMap_map, hnext]
    rfl
  rw [hgoTo]
  dsimp only
  rw [Screen.run_append]
  refine shows_drawStatus h.compiled_eq ?_ ?_ ?_ ?_
  · exact hnext.trans (congrArg (Compiled.frame · tick) h.compiled_eq)
  · rw [Screen.size_run, h.size_eq]
  · exact LcdView.stayPlain_drawSlots _ _ _ _ s h.look_eq
  · intro x hx
    have hmenu : ((Screen.blank size).run drawMenu).look = {} := stayPlain_drawMenu _ rfl
    have hsize : ((Screen.blank size).run drawMenu).size = size := Screen.size_run _ _
    have hshown := h.cell_panels hx
    rw [Screen.run_append, drawAll] at hshown ⊢
    generalize (Screen.blank size).run drawMenu = menu at hmenu hshown hsize ⊢
    rw [LcdView.cell_run_changed p.compiled.glyphs p.frame next (h.size_eq.trans hsize.symm)
      h.look_eq hmenu hshown]

/-- When the task starts or stops, the status line says so. -/
theorem Shows.drawStatus (h : Shows c size p s) (task : RepeatingTask) :
    Shows c size { p with task } (s.run ({ p with task }.drawStatus size)) := by
  have hdrawn : { p with task }.drawAll = p.drawAll := rfl
  refine shows_drawStatus h.compiled_eq h.frame_eq h.size_eq h.look_eq fun x hx => ?_
  rw [hdrawn]
  exact h.cell_panels hx

/-- A poll neither starts nor stops the task, so that the status line stays right. -/
theorem Shows.poll (h : Shows c size p s) (now : Time) :
    Shows c size (p.poll now size).1 (s.run (p.poll now size).2) := by
  have hrunning : (p.task.poll now).1.isRunning = p.task.isRunning := by
    have hinterval := congrArg Option.isSome (RepeatingTask.interval?_poll p.task now)
    simpa only [RepeatingTask.interval?, RepeatingTask.isRunning, Option.isSome_map] using hinterval
  have hpolled : Shows c size { p with task := (p.task.poll now).1 } s := by
    refine { h with cell_eq := fun x => (h.cell_eq x).trans ?_ }
    simp only [drawScreen, drawAll, Preview.drawStatus, status, hrunning]
  unfold Preview.poll
  dsimp only
  split
  next => exact hpolled.goTo (p.tick + 1)
  next => exact hpolled

theorem Shows.press (h : Shows c size p s) {now : Time} {code : KeyCode}
    {r : Preview × List Command} (hpress : p.press now size code = some r) :
    Shows c size r.1 (s.run r.2) := by
  unfold Preview.press at hpress
  split at hpress
  next => cases hpress
  next => cases hpress
  next =>
    cases hpress
    split
    next => exact h.drawStatus .stopped
    next =>
      rw [resume_eq]
      exact h.drawStatus (p.resume now).task
  next =>
    cases hpress
    exact h.goTo (p.tick + 1)
  next =>
    cases hpress
    exact h.goTo (p.tick - 1)
  next =>
    cases hpress
    exact h.goTo 0
  next =>
    cases hpress
    exact h

theorem Shows.move (h : Shows c size p s) {m : Move} {r : Preview × List Command}
    (hmove : p.move size m = some r) : Shows c size r.1 (s.run r.2) := by
  cases m with
  | poll now =>
    cases hmove
    exact h.poll now
  | event now e =>
    cases e with
    | key k => exact h.press hmove
    | resize =>
      cases hmove
      rw [Screen.run_cons]
      exact shows_drawScreen h.compiled_eq h.frame_eq h.size_eq h.look_eq fun _ => rfl
    | _ =>
      cases hmove
      exact h

/-- After any run the screen is as if everything had been drawn anew. -/
theorem Shows.moves (h : Shows c size p s) (ms : List Move) :
    Shows c size (p.moves size ms).1 (s.run (p.moves size ms).2) := by
  induction ms generalizing p s with
  | nil => exact h
  | cons m ms ih =>
    unfold Preview.moves
    split
    next => exact h
    next after drawn hmove =>
      dsimp only
      rw [Screen.run_append]
      exact ih (h.move hmove)

/-- In its rows the LCD is all that drawing everything leaves. -/
theorem cell_run_drawScreen (hx : LcdView.rows lcdBox x.row) :
    ((Screen.blank size).run (p.drawScreen size)).cell x =
      ((Screen.blank size).run p.drawAll).cell x := by
  have hstatus : ¬ OnStatusLine size x := fun h => Nat.ne_of_lt hx.2 h.1
  have hmenu : ((Screen.blank size).run drawMenu).cell x = (Screen.blank size).cell x :=
    Screen.cell_run_moveTo_of_keepsTo (fun _ => keepsTo_of_mem_drawMenu) (Nat.ne_of_gt hx.1)
  obtain ⟨rest, hrest⟩ := LcdView.exists_drawLcd_eq p.frame p.compiled.glyphs none
  rw [drawScreen, Screen.run_append, Screen.run_append, cell_run_drawStatus p size hstatus, drawAll,
    hrest]
  exact Screen.cell_run_moveTo_congr (Screen.size_run _ _) (stayPlain_drawMenu _ rfl) hmenu
    lcdBox.column lcdBox.row rest

end

/-- In every run of the preview its frame is that of its tick, and although only the slots that
change are drawn again, the screen shows what a cleared screen would on which everything is drawn
anew. In the rows of the LCD that is the frame. -/
theorem repaint_eq_redraw (d : Display) (o : Options) (start : Time) (size : Size)
    (ms : List Move) :
    let opened := (ofDesign d o).resume start
    let p := (opened.moves size ms).1
    let drawn := enter ++ opened.drawScreen size ++ (opened.moves size ms).2
    let screen := (Screen.blank size).run drawn
    p.compiled = Compiled.ofDesign d o ∧
      p.frame = Frame.ofPlan p.compiled.plan p.tick ∧
      (∀ x, screen.cell x = ((Screen.blank size).run (p.drawScreen size)).cell x) ∧
      ∀ x, LcdView.rows lcdBox x.row →
        screen.cell x =
          ((Screen.blank size).run
            (LcdView.drawLcd lcdBox p.frame p.compiled.glyphs none)).cell x := by
  intro opened p drawn screen
  have hopened : Shows (Compiled.ofDesign d o) size opened
      (((Screen.blank size).run enter).run (opened.drawScreen size)) := by
    have hresume : opened = { ofDesign d o with task := opened.task } := resume_eq _ start
    rw [hresume]
    exact shows_drawScreen rfl rfl rfl rfl fun _ => rfl
  have hshown : Shows (Compiled.ofDesign d o) size p screen := by
    show Shows _ size p ((Screen.blank size).run drawn)
    rw [Screen.run_append, Screen.run_append]
    exact hopened.moves ms
  refine ⟨hshown.compiled_eq, ?_, hshown.cell_eq, ?_⟩
  · rw [hshown.compiled_eq]
    exact hshown.frame_eq
  · intro x hx
    rw [hshown.cell_eq x, cell_run_drawScreen hx, drawAll]

/-- A character that scrolls on by a column is erased where it was and drawn where it comes. -/
example :
    let full : Bitmap := Grid.replicate true
    let d := Display.blank.set ⟨0, by decide⟩ ⟨1, by decide⟩ full
    let opened := ofDesign d { scrolling := true, direction := .right }
    let (p, drawn) := opened.moves ⟨97, 13⟩ [.event 0 (.key ⟨.right, {}⟩)]
    drawn = LcdView.drawSlot lcdBox 0 1 none false ++
      LcdView.drawSlot lcdBox 0 2 (some full) false ++ p.drawStatus ⟨97, 13⟩ := by
  decide +kernel

end Preview

end CharLcd
