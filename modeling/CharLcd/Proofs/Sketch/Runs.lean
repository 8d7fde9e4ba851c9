import CharLcd.Sketch.Build
import CharLcd.Sketch.Machine

/-!
# Running statements

Rules for statements that come to their end, one for each kind of statement that
a sketch is built from.

- `State.sendAll`, `State.number?_of_global` and its like: signals and names.
- `Stmt.Runs`: a statement brings one state to another without returning.
- `Runs.seq_iff`, `Runs.block_append`: statements one after the other.
- `Runs.send`, `Runs.call`: calls of the library, which send signals, and of the
  functions of the sketch.
- `Runs.flatMap`: signals sent for each item of a list.
- `RunsInScope`, `Runs.ifThen_of_true` and its like: scopes and conditions.
- `meaningOf_eq`: what a function does, given what its body does.
-/

namespace CharLcd.Sketch

/-! ## Sending signals -/

namespace State

/-- Send some signals one after the other. -/
def sendAll (s : State) (signals : List Signal) : State :=
  { s with signals := s.signals ++ signals }

@[simp] theorem sendAll_nil (s : State) : s.sendAll [] = s := by
  rw [sendAll, List.append_nil]

@[simp] theorem sendAll_sendAll (s : State) (signals more : List Signal) :
    (s.sendAll signals).sendAll more = s.sendAll (signals ++ more) := by
  simp only [sendAll, List.append_assoc]

@[simp] theorem globals_sendAll (s : State) (signals : List Signal) :
    (s.sendAll signals).globals = s.globals := rfl

@[simp] theorem locals_sendAll (s : State) (signals : List Signal) :
    (s.sendAll signals).locals = s.locals := rfl

@[simp] theorem frames_sendAll (s : State) (signals : List Signal) :
    (s.sendAll signals).frames = s.frames := rfl

@[simp] theorem signals_sendAll (s : State) (signals : List Signal) :
    (s.sendAll signals).signals = s.signals ++ signals := rfl

/-! ## Names -/

theorem number?_declare_self (s : State) (name type : String) (v : Int) :
    (s.declare name (.number type v)).number? name = some v := by
  simp [number?, get?, declare]

theorem number?_declare_of_ne (s : State) {name other : String} (v : Variable) (h : name ≠ other) :
    (s.declare other v).number? name = s.number? name := by
  rw [number?, number?, get?, get?, declare, List.lookup_cons, beq_eq_false_iff_ne.mpr h]

/-- A global name is seen where no local one hides it. -/
theorem number?_of_global {s : State} {name type : String} {v : Int}
    (hlocal : s.locals.lookup name = none)
    (hglobal : s.globals.lookup name = some (.number type v)) : s.number? name = some v := by
  rw [number?, get?, hlocal, hglobal, Option.none_or]

/-- The innermost name is the one that changes. -/
theorem assign_declare_self (s : State) (name : String) (v w : Int) :
    (s.declare name (.number "int" v)).assign name w = some (s.declare name (.number "int" w)) := by
  simp [assign, declare, update, fit]

/-- At the end of a scope the names declared in it are forgotten. -/
theorem leaveScope_of_locals {s t : State} (extra : List (String × Variable))
    (h : t.locals = extra ++ s.locals) : t.leaveScope s = { t with locals := s.locals } := by
  simp [leaveScope, h]

end State

/-! ## The library -/

/-- The names of the functions of the library. -/
def libraryNames : List String :=
  ["lcd.init", "lcd.backlight", "lcd.begin", "lcd.createChar", "lcd.clear", "lcd.setCursor",
    "lcd.write", "lcd.print", "delay"]

/-- The functions of the sketch leave the names of the library alone. -/
def Functions.KeepLibrary (functions : Functions) : Prop :=
  ∀ name ∈ libraryNames, functions.lookup name = none

theorem keepLibrary_nil : Functions.KeepLibrary [] := fun _ _ => rfl

theorem Functions.KeepLibrary.cons {functions : Functions} {name : String} {meaning : Meaning}
    (h : functions.KeepLibrary) (hname : name ∉ libraryNames) :
    Functions.KeepLibrary ((name, meaning) :: functions) := by
  intro other hother
  have hne : other ≠ name := fun heq => hname (heq ▸ hother)
  rw [List.lookup_cons, beq_eq_false_iff_ne.mpr hne]
  exact h other hother

@[simp] theorem natural?_natCast (n : Nat) : natural? (n : Int) = some n := by
  rw [natural?, if_neg (by omega), Int.toNat_natCast]

theorem signal?_setCursor {functions : Functions} {s : State} {column line : Expr} {c l : Nat}
    (hcolumn : column.eval functions s = some (c : Int))
    (hline : line.eval functions s = some (l : Int)) :
    signal? functions s "lcd.setCursor" [column, line] = some (.setCursor c l) := by
  simp [signal?, hcolumn, hline]

theorem signal?_write {functions : Functions} {s : State} {index : Expr} {i : Nat}
    (hindex : index.eval functions s = some (i : Int)) :
    signal? functions s "lcd.write" [index] = some (.write i) := by
  simp [signal?, hindex]

theorem signal?_delay {functions : Functions} {s : State} {time : Expr} {milliseconds : Nat}
    (htime : time.eval functions s = some (milliseconds : Int)) :
    signal? functions s "delay" [time] = some (.delay milliseconds) := by
  simp [signal?, htime]

/-! ## Expressions -/

theorem Expr.eval_name {functions : Functions} {s : State} {x : String} {v : Int}
    (h : s.number? x = some v) : (Expr.name x).eval functions s = some v := h

/-- The value of an operator, when its operands have values. -/
theorem Expr.eval_binary {functions : Functions} {s : State} {op : Op} {left right : Expr}
    {a b : Int} (hleft : left.eval functions s = some a) (hright : right.eval functions s = some b) :
    (Expr.binary op left right).eval functions s = op.eval a b := by
  simp only [eval, hleft, hright, Option.bind_eq_bind, Option.bind_some]

namespace Stmt

theorem exec_seq_eq {functions : Functions} (first rest : Stmt) (s : State) :
    (Stmt.seq first rest).exec functions s =
      (first.exec functions s).bind fun outcome => match outcome with
        | (t, none) => rest.exec functions t
        | returned => some returned := rfl

/-- A statement brings one state to another and does not return from its function. -/
def Runs (functions : Functions) (stmt : Stmt) (s t : State) : Prop :=
  stmt.exec functions s = some (t, none)

namespace Runs

variable {functions : Functions} {s t u : State}

/-! ## One after the other -/

theorem skip : Runs functions .skip s s := rfl

/-- Two statements run if the first runs and the second runs from there. -/
theorem seq_iff {first rest : Stmt} :
    Runs functions (.seq first rest) s u ↔
      ∃ t, Runs functions first s t ∧ Runs functions rest t u := by
  rw [Runs, exec_seq_eq]
  constructor
  · intro h
    -- had the first statement returned, the sequence would have returned as well
    obtain ⟨⟨t, result⟩, hfirst, hrest⟩ := Option.bind_eq_some_iff.mp h
    cases result with
    | none => exact ⟨t, hfirst, hrest⟩
    | some value => cases hrest
  · rintro ⟨t, hfirst, hrest⟩
    rw [hfirst]
    exact hrest

theorem seq {first rest : Stmt} (hfirst : Runs functions first s t)
    (hrest : Runs functions rest t u) : Runs functions (.seq first rest) s u :=
  seq_iff.mpr ⟨t, hfirst, hrest⟩

theorem block_nil : Runs functions (.block []) s s := rfl

theorem block_cons {first : Stmt} {rest : List Stmt} (hfirst : Runs functions first s t)
    (hrest : Runs functions (.block rest) t u) : Runs functions (.block (first :: rest)) s u :=
  seq hfirst hrest

theorem block_singleton {stmt : Stmt} (h : Runs functions stmt s t) :
    Runs functions (.block [stmt]) s t :=
  block_cons h block_nil

theorem block_append {first rest : List Stmt} (hfirst : Runs functions (.block first) s t)
    (hrest : Runs functions (.block rest) t u) :
    Runs functions (.block (first ++ rest)) s u := by
  induction first generalizing s with
  | nil =>
    cases hfirst
    exact hrest
  | cons stmt first ih =>
    obtain ⟨v, hstmt, hmore⟩ := seq_iff.mp hfirst
    exact block_cons hstmt (ih hmore)

/-- After a statement has run, the next one decides what a sequence does. -/
theorem exec_seq {first rest : Stmt} (h : Runs functions first s t) :
    (Stmt.seq first rest).exec functions s = rest.exec functions t := by
  rw [exec_seq_eq, h]
  rfl

/-! ## Variables and arrays -/

theorem declare {type name : String} {value : Expr} {v : Int}
    (hvalue : value.eval functions s = some v) :
    Runs functions (.declare type name value) s (s.declare name (.number type (fit type v))) := by
  show ((value.eval functions s).bind fun v =>
    some (s.declare name (.number type (fit type v)), none)) = _
  rw [hvalue]
  rfl

theorem table {name : String} {values : List Expr} {vs : List Int}
    (hvalues : values.mapM (Expr.eval functions s) = some vs) :
    Runs functions (.table name values) s (s.declare name (.table (vs.map (fit "byte")))) := by
  show ((values.mapM (Expr.eval functions s)).bind fun vs =>
    some (s.declare name (.table (vs.map (fit "byte"))), none)) = _
  rw [hvalues]
  rfl

theorem assign {name : String} {value : Expr} {v : Int}
    (hvalue : value.eval functions s = some v) (hassign : s.assign name v = some t) :
    Runs functions (.assign name value) s t := by
  show ((value.eval functions s).bind fun v => (s.assign name v).bind fun t => some (t, none)) = _
  rw [hvalue, Option.bind_some, hassign]
  rfl

theorem increase {name : String} {value : Expr} {v w : Int} (hname : s.number? name = some v)
    (hvalue : value.eval functions s = some w) (hassign : s.assign name (v + w) = some t) :
    Runs functions (.increase name value) s t := by
  show ((s.number? name).bind fun v => (value.eval functions s).bind fun w =>
    (s.assign name (v + w)).bind fun t => some (t, none)) = _
  rw [hname, Option.bind_some, hvalue, Option.bind_some, hassign]
  rfl

theorem store {array : String} {line column value : Expr} {l c v : Int}
    (hline : line.eval functions s = some l) (hcolumn : column.eval functions s = some c)
    (hvalue : value.eval functions s = some v) (hstore : s.store array l c v = some t) :
    Runs functions (.store array line column value) s t := by
  show ((line.eval functions s).bind fun l => (column.eval functions s).bind fun c =>
    (value.eval functions s).bind fun v => (s.store array l c v).bind fun t => some (t, none)) = _
  rw [hline, Option.bind_some, hcolumn, Option.bind_some, hvalue, Option.bind_some, hstore]
  rfl

/-! ## Calls -/

/-- A call of the library sends a signal. -/
theorem send {name : String} {arguments : List Expr} {remark : Option String} {signal : Signal}
    (hlibrary : functions.lookup name = none)
    (hsignal : signal? functions s name arguments = some signal) :
    Runs functions (.call name arguments remark) s (s.sendAll [signal]) := by
  show ((callFunction functions s name arguments).bind fun t => some (t, none)) = _
  rw [callFunction, hlibrary, hsignal]
  rfl

/-- A call of a function of the sketch does what the function means. -/
theorem call {name : String} {arguments : List Expr} {remark : Option String}
    {meaning : Meaning} {values : List Int} {result : Int}
    (hown : functions.lookup name = some meaning)
    (hvalues : arguments.mapM (Expr.eval functions s) = some values)
    (hmeaning : meaning values s = some (t, result)) :
    Runs functions (.call name arguments remark) s t := by
  show ((callFunction functions s name arguments).bind fun t => some (t, none)) = _
  have hcall : callFunction functions s name arguments = some t := by
    rw [callFunction, hown]
    show ((arguments.mapM (Expr.eval functions s)).bind fun values =>
      (meaning values s).bind fun r => some r.1) = some t
    rw [hvalues, Option.bind_some, hmeaning, Option.bind_some]
  rw [hcall]
  rfl

/-- Statements that send signals for each item of a list send them in order. -/
theorem flatMap {α : Type} {items : List α} {stmts : α → List Stmt} {signals : α → List Signal}
    (h : ∀ a ∈ items, ∀ sent, Runs functions (.block (stmts a)) (s.sendAll sent)
      (s.sendAll (sent ++ signals a))) :
    Runs functions (.block (items.flatMap stmts)) s (s.sendAll (items.flatMap signals)) := by
  suffices ∀ sent, Runs functions (.block (items.flatMap stmts)) (s.sendAll sent)
      (s.sendAll (sent ++ items.flatMap signals)) by
    simpa using this []
  induction items with
  | nil =>
    intro sent
    rw [List.flatMap_nil, List.flatMap_nil, List.append_nil]
    exact block_nil
  | cons a items ih =>
    intro sent
    rw [List.flatMap_cons, List.flatMap_cons, ← List.append_assoc]
    have hrest := ih fun b hb => h b (List.mem_cons_of_mem a hb)
    exact block_append (h a List.mem_cons_self sent) (hrest (sent ++ signals a))

end Runs

/-! ## Scopes and conditions -/

/-- A statement in a scope of its own brings one state to another and does not return. -/
def RunsInScope (functions : Functions) (stmt : Stmt) (s t : State) : Prop :=
  inScope (stmt.exec functions) s = some (t, none)

namespace Runs

variable {functions : Functions} {s t : State}

theorem inScope {stmt : Stmt} (h : Runs functions stmt s t)
    (extra : List (String × Variable)) (hlocals : t.locals = extra ++ s.locals) :
    RunsInScope functions stmt s { t with locals := s.locals } := by
  rw [RunsInScope, Sketch.inScope, h, ← State.leaveScope_of_locals extra hlocals]
  rfl

/-- A statement that declares no names needs no scope. -/
theorem inScope_of_length_eq {stmt : Stmt} (h : Runs functions stmt s t)
    (hlength : t.locals.length = s.locals.length) : RunsInScope functions stmt s t := by
  have hleave : t.leaveScope s = t := by
    rw [State.leaveScope, hlength, Nat.sub_self, List.drop_zero]
  rw [RunsInScope, Sketch.inScope, h, Option.map_some, hleave]

theorem ifThen_of_true {condition : Expr} {body : Stmt} {value : Int}
    (hcondition : condition.eval functions s = some value) (hvalue : value ≠ 0)
    (hbody : RunsInScope functions body s t) : Runs functions (.ifThen condition body) s t := by
  show ((condition.eval functions s).bind fun value =>
    if value ≠ 0 then Sketch.inScope (body.exec functions) s else some (s, none)) = _
  rw [hcondition, Option.bind_some, if_pos hvalue]
  exact hbody

theorem ifThen_of_false {condition : Expr} {body : Stmt}
    (hcondition : condition.eval functions s = some 0) :
    Runs functions (.ifThen condition body) s s := by
  show ((condition.eval functions s).bind fun value =>
    if value ≠ 0 then Sketch.inScope (body.exec functions) s else some (s, none)) = _
  rw [hcondition]
  rfl

theorem ifElse_of_true {condition : Expr} {yes no : Stmt} {value : Int}
    (hcondition : condition.eval functions s = some value) (hvalue : value ≠ 0)
    (hyes : RunsInScope functions yes s t) : Runs functions (.ifElse condition yes no) s t := by
  show ((condition.eval functions s).bind fun value =>
    if value ≠ 0 then Sketch.inScope (yes.exec functions) s
    else Sketch.inScope (no.exec functions) s) = _
  rw [hcondition, Option.bind_some, if_pos hvalue]
  exact hyes

theorem ifElse_of_false {condition : Expr} {yes no : Stmt}
    (hcondition : condition.eval functions s = some 0)
    (hno : RunsInScope functions no s t) : Runs functions (.ifElse condition yes no) s t := by
  show ((condition.eval functions s).bind fun value =>
    if value ≠ 0 then Sketch.inScope (yes.exec functions) s
    else Sketch.inScope (no.exec functions) s) = _
  rw [hcondition]
  exact hno

end Runs

end Stmt

/-! ## Functions -/

/-- The parameters of a function as its local variables. -/
def bindings (parameters : List (String × String)) (arguments : List Int) :
    List (String × Variable) :=
  (parameters.zip arguments).map fun ((type, name), value) => (name, .number type (fit type value))

/-- A function runs its body with its parameters and leaves the caller's variables alone. -/
theorem meaningOf_eq {functions : Functions} {parameters : List (String × String)} {body : Stmt}
    {arguments : List Int} {s t : State} {result : Option Int}
    (hlength : arguments.length = parameters.length)
    (hbody : body.exec functions { s with locals := bindings parameters arguments } =
      some (t, result)) :
    meaningOf functions parameters body arguments s =
      some ({ t with locals := s.locals }, result.getD 0) := by
  rw [bindings] at hbody
  simp only [meaningOf, if_pos hlength, hbody]
  rfl

end CharLcd.Sketch
