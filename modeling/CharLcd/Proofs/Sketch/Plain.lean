import CharLcd.Proofs.Sketch.Runs
import CharLcd.Sketch.Plain

/-!
# Plain sketches do the same

What only serves the readers of a sketch does nothing: `Stmt.exec_plain`,
`Program.load_plain` and `Program.after_plain` say so for statements, for what is
loaded, and for any number of rounds.
-/

namespace CharLcd.Sketch

namespace Stmt

variable {functions : Functions}

theorem exec_seq_skip (stmt : Stmt) :
    (Stmt.seq stmt .skip).exec functions = stmt.exec functions := by
  funext s
  rw [exec_seq_eq]
  cases stmt.exec functions s with
  | none => rfl
  | some outcome =>
    obtain ⟨t, result⟩ := outcome
    cases result <;> rfl

theorem exec_seq_assoc (first second third : Stmt) :
    (Stmt.seq (.seq first second) third).exec functions =
      (Stmt.seq first (.seq second third)).exec functions := by
  funext s
  rw [exec_seq_eq, exec_seq_eq, exec_seq_eq]
  cases first.exec functions s with
  | none => rfl
  | some outcome =>
    obtain ⟨t, result⟩ := outcome
    cases result <;> rfl

theorem exec_seq_congr {first first' rest rest' : Stmt}
    (hfirst : first.exec functions = first'.exec functions)
    (hrest : rest.exec functions = rest'.exec functions) :
    (Stmt.seq first rest).exec functions = (Stmt.seq first' rest').exec functions := by
  funext s
  rw [exec_seq_eq, exec_seq_eq, hfirst, hrest]

theorem exec_block_append (body more : List Stmt) :
    (Stmt.block (body ++ more)).exec functions =
      (Stmt.seq (.block body) (.block more)).exec functions := by
  induction body with
  | nil => rfl
  | cons stmt body ih =>
    rw [List.cons_append, block_cons, block_cons, exec_seq_assoc]
    exact exec_seq_congr rfl ih

/-- What is plain of a statement does what the statement does. -/
theorem exec_plain (stmt : Stmt) :
    (Stmt.block stmt.plain).exec functions = stmt.exec functions := by
  induction stmt with
  | skip => rfl
  | blank => rfl
  | comment _ => rfl
  | seq first rest hfirst hrest =>
    rw [plain, exec_block_append]
    exact exec_seq_congr hfirst hrest
  | ifThen condition body hbody =>
    rw [plain, block_cons, block_nil, exec_seq_skip]
    simp only [exec, hbody]
  | ifElse condition yes no hyes hno =>
    rw [plain, block_cons, block_nil, exec_seq_skip]
    simp only [exec, hyes, hno]
  | countTo index bound body hbody =>
    rw [plain, block_cons, block_nil, exec_seq_skip]
    simp only [exec, hbody]
  | _ => exact exec_seq_skip _

end Stmt

theorem Loaded.foldl_add_plain (l : Loaded) (i : Item) : i.plain.foldl Loaded.add l = l.add i := by
  cases i with
  | function result x parameters body =>
    have hmeaning : meaningOf l.functions parameters (.block body.plain) =
        meaningOf l.functions parameters body := by
      funext arguments s
      rw [meaningOf, meaningOf, Stmt.exec_plain]
    rw [Item.plain, List.foldl_cons, List.foldl_nil, add, add, hmeaning]
  | _ => rfl

namespace Program

theorem load_plain (p : Program) : p.plain.load = p.load := by
  have hfoldl (l : Loaded) : p.plain.foldl Loaded.add l = p.foldl Loaded.add l := by
    induction p generalizing l with
    | nil => rfl
    | cons i rest ih =>
      show (i.plain ++ Program.plain rest).foldl Loaded.add l = _
      rw [List.foldl_append, Loaded.foldl_add_plain, ih, List.foldl_cons]
  exact hfoldl _

theorem after_plain (p : Program) (n : Nat) : p.plain.after n = p.after n := by
  rw [after, load_plain]
  rfl

@[simp] theorem signals_plain (p : Program) (n : Nat) : p.plain.signals n = p.signals n := by
  rw [signals, after_plain]
  rfl

@[simp] theorem lcd_plain (p : Program) (n : Nat) : p.plain.lcd n = p.lcd n := by
  rw [lcd, after_plain]
  rfl

end Program

end CharLcd.Sketch
