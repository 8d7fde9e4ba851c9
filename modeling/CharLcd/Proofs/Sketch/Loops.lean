import CharLcd.Proofs.Sketch.Runs

/-!
# Counting loops

Rules for the loops of a sketch. The body is asked to keep an invariant of the
rounds done, and the loop ends with the invariant of all rounds.

- `State.counting`: a state in which a loop counts.
- `Runs.countTo`: a loop that counts up to its bound.
- `Runs.forEachSlot`: a loop over the slots of the display, in scan order.
-/

namespace CharLcd.Sketch

/-! ## The variable that counts -/

namespace State

/-- A state in which a loop counts with a variable of its own. -/
def counting (s : State) (index : String) (i : Nat) : State :=
  s.declare index (.number "int" i)

@[simp] theorem number?_counting (s : State) (index : String) (i : Nat) :
    (s.counting index i).number? index = some (i : Int) :=
  number?_declare_self s index "int" i

theorem number?_counting_of_ne (s : State) {index name : String} (i : Nat) (h : name ≠ index) :
    (s.counting index i).number? name = s.number? name :=
  number?_declare_of_ne s _ h

/-- Counting on changes the variable of the innermost loop. -/
theorem assign_counting (s : State) (index : String) (i j : Nat) :
    (s.counting index i).assign index j = some (s.counting index j) :=
  assign_declare_self s index i j

theorem leaveScope_counting {s t : State} (index : String) (i : Nat)
    (h : t.locals = s.locals) : (t.counting index i).leaveScope s = t := by
  have hleave : (t.counting index i).leaveScope s = { t with locals := s.locals } :=
    leaveScope_of_locals [(index, .number "int" i)] (congrArg _ h)
  rw [hleave, ← h]

end State

/-! ## One loop -/

namespace Stmt.Runs

variable {functions : Functions} {s : State}

/-- With as many rounds left as the bound asks for, a loop reaches the end. -/
theorem goRound_of_inv {rounds : Nat} {inv : Nat → State → Prop} {index : String} {bound : Expr}
    {body : Stmt}
    (hbound : ∀ i t, inv i t → bound.eval functions (t.counting index i) = some (rounds : Int))
    (hbody : ∀ i < rounds, ∀ t, inv i t → ∃ t',
      RunsInScope functions body (t.counting index i) (t'.counting index i) ∧ inv (i + 1) t')
    (left i : Nat) (hleft : i + left = rounds) {t : State} (h : inv i t) :
    ∃ t', goRound (fun s => do return (← s.number? index) < (← bound.eval functions s))
        (Sketch.inScope (body.exec functions)) (fun s => do s.assign index ((← s.number? index) + 1))
        left (t.counting index i) = some (t'.counting index rounds, none) ∧ inv rounds t' := by
  induction left generalizing i t with
  | zero =>
    obtain rfl : i = rounds := by omega
    refine ⟨t, ?_, h⟩
    simp [goRound, hbound i t h]
  | succ left ih =>
    obtain ⟨u, hrun, hu⟩ := hbody i (by omega) t h
    obtain ⟨t', hrest, ht'⟩ := ih (i + 1) (by omega) hu
    refine ⟨t', ?_, ht'⟩
    have hlt : (i : Int) < rounds := by omega
    -- between two rounds only the variable that counts changes
    have hnext : (u.counting index i).assign index ((i : Int) + 1) = some (u.counting index (i + 1)) :=
      State.assign_counting u index i (i + 1)
    rw [RunsInScope] at hrun
    simpa [goRound, hbound i t h, hlt, hrun, hnext] using hrest

/-- A counting loop whose body keeps an invariant of the rounds done. -/
theorem countTo {index : String} {bound : Expr} {body : Stmt} (rounds : Nat)
    (inv : Nat → State → Prop) (hlocals : ∀ i t, inv i t → t.locals = s.locals)
    (hstart : bound.eval functions s = some (rounds : Int))
    (hbound : ∀ i t, inv i t → bound.eval functions (t.counting index i) = some (rounds : Int))
    (hbody : ∀ i < rounds, ∀ t, inv i t → ∃ t',
      RunsInScope functions body (t.counting index i) (t'.counting index i) ∧ inv (i + 1) t')
    (h : inv 0 s) :
    ∃ t, Runs functions (.countTo index bound body) s t ∧ inv rounds t := by
  obtain ⟨t, hgo, ht⟩ := goRound_of_inv hbound hbody rounds 0 (by omega) h
  refine ⟨t, ?_, ht⟩
  show ((bound.eval functions s).bind fun value =>
    (goRound _ _ _ value.toNat (s.counting index 0)).bind fun r =>
      some (r.1.leaveScope s, r.2)) = _
  rw [hstart, Option.bind_some, Int.toNat_natCast, hgo, Option.bind_some,
    State.leaveScope_counting index rounds (hlocals rounds t ht)]

end Stmt.Runs

/-! ## The slots of the display -/

/-- The first positions of the display that the scan meets. -/
def firstPositions (n : Nat) : List (Fin lcdLines × Fin lcdColumns) :=
  (Grid.positions lcdLines lcdColumns).take n

theorem getElem?_positions (line : Fin lcdLines) (column : Fin lcdColumns) :
    (Grid.positions lcdLines lcdColumns)[lcdColumns * line.val + column.val]? =
      some (line, column) := by
  revert line column
  decide

theorem firstPositions_succ (line : Fin lcdLines) (column : Fin lcdColumns) :
    firstPositions (lcdColumns * line + column + 1) =
      firstPositions (lcdColumns * line + column) ++ [(line, column)] := by
  rw [firstPositions, List.take_add_one, getElem?_positions]
  rfl

/-- A position stands behind those that the scan meets before it. -/
theorem firstPositions_append (line : Fin lcdLines) (column : Fin lcdColumns) :
    ∃ rest, firstPositions (lcdColumns * line + column) ++ (line, column) :: rest =
      Grid.positions lcdLines lcdColumns := by
  refine ⟨(Grid.positions lcdLines lcdColumns).drop (lcdColumns * line + column + 1), ?_⟩
  rw [← List.singleton_append, ← List.append_assoc, ← firstPositions_succ]
  exact List.take_append_drop _ _

/-- A state in which two loops count the lines and columns of the display. -/
def State.atSlot (s : State) (p : Fin lcdLines × Fin lcdColumns) : State :=
  (s.counting "line" p.1).counting "column" p.2

/-- A loop over the slots of the display whose body keeps an invariant of the slots done. -/
theorem Stmt.Runs.forEachSlot {functions : Functions} {s : State} {body : Stmt}
    (inv : List (Fin lcdLines × Fin lcdColumns) → State → Prop)
    (hlocals : ∀ done t, inv done t → t.locals = s.locals)
    (hcolumns : ∀ done t, inv done t → t.number? "LCD_COLUMNS" = some lcdColumns)
    (hbody : ∀ done p rest t, done ++ p :: rest = Grid.positions lcdLines lcdColumns →
      inv done t → ∃ t', RunsInScope functions (.block [body]) (t.atSlot p) (t'.atSlot p) ∧
        inv (done ++ [p]) t')
    (h : inv [] s) :
    ∃ t, Runs functions (forEachSlot body) s t ∧ inv (Grid.positions lcdLines lcdColumns) t := by
  -- the outer loop has done whole lines
  refine countTo lcdLines (fun i => inv (firstPositions (lcdColumns * i)))
    (fun i t ht => hlocals _ t ht) rfl (fun i t ht => rfl) ?_ h
  intro i hi t ht
  -- the inner loop has done some columns of line `i` as well
  have hline : ∃ u, Runs functions (.countTo "column" (.name "LCD_COLUMNS") (.block [body]))
      (t.counting "line" i) u ∧ ∃ t', u = t'.counting "line" i ∧
        inv (firstPositions (lcdColumns * i + lcdColumns)) t' := by
    refine countTo lcdColumns
      (fun j u => ∃ t, u = t.counting "line" i ∧ inv (firstPositions (lcdColumns * i + j)) t)
      ?_ ?_ ?_ ?_ ⟨t, rfl, ht⟩
    · rintro j _ ⟨u, rfl, hu⟩
      exact congrArg (List.cons _) ((hlocals _ u hu).trans (hlocals _ t ht).symm)
    · exact (State.number?_counting_of_ne t i (by decide)).trans (hcolumns _ t ht)
    · rintro j _ ⟨u, rfl, hu⟩
      refine (State.number?_counting_of_ne _ j (by decide)).trans ?_
      exact (State.number?_counting_of_ne u i (by decide)).trans (hcolumns _ u hu)
    · rintro j hj _ ⟨u, rfl, hu⟩
      obtain ⟨rest, hrest⟩ := firstPositions_append ⟨i, hi⟩ ⟨j, hj⟩
      obtain ⟨u', hu', hinv⟩ := hbody _ _ rest u hrest hu
      refine ⟨u'.counting "line" i, hu', u', rfl, ?_⟩
      rwa [← firstPositions_succ] at hinv
  obtain ⟨_, hrun, t', rfl, ht'⟩ := hline
  have hsame : t'.locals = t.locals := (hlocals _ t' ht').trans (hlocals _ t ht).symm
  exact ⟨t', (block_singleton hrun).inScope_of_length_eq
    (congrArg (fun locals => locals.length + 1) hsame), ht'⟩

end CharLcd.Sketch
