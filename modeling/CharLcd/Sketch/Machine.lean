import CharLcd.Sketch.Lcd
import CharLcd.Sketch.Syntax

/-!
# What a sketch does

The meaning of a sketch: `setup` runs once and then `loop` again and again, and
both send signals to the LCD. Numbers are whole numbers, of which a `byte` keeps
the remainder by 256. A program that leaves the part of the language described
here, by reading a name that is not there for instance, has no meaning (`none`).

- `Expr.eval`: the value of an expression.
- `Stmt.exec`: what a statement does, given what the functions before it do.
- `Program.load`: the functions and the global variables of a sketch.
- `Program.after`: the state after `setup` and some rounds of `loop`;
  `Program.signals` are those of one round, and `Program.lcd` is the LCD then.
-/

namespace CharLcd.Sketch

/-! ## States -/

/-- What a name stands for. -/
inductive Variable where
  | number (type : String) (value : Int)
  /-- An array of bytes. -/
  | table (values : List Int)
  deriving DecidableEq, Repr

/-- What a variable of a type keeps of a number. -/
def fit (type : String) (value : Int) : Int :=
  if type = "byte" then value % 256 else value

/-- The memory of the board, and the signals sent so far. -/
structure State where
  globals : List (String × Variable)
  /-- The variables of the function that runs, innermost first. -/
  locals : List (String × Variable)
  /-- The arrays with a byte for every slot of the display. -/
  frames : List (String × Grid lcdLines lcdColumns Int)
  signals : List Signal
  deriving DecidableEq, Repr

namespace State

/-- A board that has just been switched on. -/
def initial : State := ⟨[], [], [], []⟩

/-- What a name stands for; local names hide global ones. -/
def get? (s : State) (name : String) : Option Variable :=
  (s.locals.lookup name).or (s.globals.lookup name)

/-- The number that a name stands for. -/
def number? (s : State) (name : String) : Option Int :=
  match s.get? name with
  | some (.number _ value) => some value
  | _ => none

/-- The bytes that a name stands for. -/
def table? (s : State) (name : String) : Option (List Int) :=
  match s.get? name with
  | some (.table values) => some values
  | _ => none

/-- Declare a local name. -/
def declare (s : State) (name : String) (v : Variable) : State :=
  { s with locals := (name, v) :: s.locals }

/-- Change the number of the first variable with a name. -/
def update (name : String) (value : Int) :
    List (String × Variable) → Option (List (String × Variable))
  | [] => none
  | (here, v) :: rest =>
    if here = name then
      match v with
      | .number type _ => some ((here, .number type (fit type value)) :: rest)
      | .table _ => none
    else (update name value rest).map ((here, v) :: ·)

/-- Change the number that a name stands for. -/
def assign (s : State) (name : String) (value : Int) : Option State :=
  match s.locals.lookup name with
  | some _ => (update name value s.locals).map fun locals => { s with locals }
  | none => (update name value s.globals).map fun globals => { s with globals }

/-- An entry of a frame array. -/
def entry (s : State) (array : String) (line column : Int) : Option Int := do
  let frame ← s.frames.lookup array
  if line < 0 ∨ column < 0 then none else frame.get? line.toNat column.toNat

/-- Change an entry of a frame array. -/
def store (s : State) (array : String) (line column value : Int) : Option State := do
  let frame ← s.frames.lookup array
  if line < 0 ∨ column < 0 then none
  else
    let frame ← frame.set? line.toNat column.toNat (fit "byte" value)
    return { s with frames := (array, frame) :: s.frames.filter (·.1 ≠ array) }

/-- Send a signal. -/
def send (s : State) (signal : Signal) : State :=
  { s with signals := s.signals ++ [signal] }

/-- Forget the names declared since a state. -/
def leaveScope (s outer : State) : State :=
  { s with locals := s.locals.drop (s.locals.length - outer.locals.length) }

end State

/-- What a function does with its arguments: the state afterwards and its result. -/
abbrev Meaning := List Int → State → Option (State × Int)

/-- The functions that can be called, by name. -/
abbrev Functions := List (String × Meaning)

/-! ## Expressions -/

/-- A truth value as a number. -/
def truth (p : Prop) [Decidable p] : Int := if p then 1 else 0

/-- The value of an operator. The remainder has the sign of the left operand. -/
def Op.eval (op : Op) (left right : Int) : Option Int :=
  match op with
  | .add => some (left + right)
  | .sub => some (left - right)
  | .mod => if right = 0 then none else some (left.tmod right)
  | .lt => some (truth (left < right))
  | .eq => some (truth (left = right))
  | .ne => some (truth (left ≠ right))

/-- The value of an expression. A function that changes anything has no meaning
inside one. -/
def Expr.eval (functions : Functions) (s : State) : Expr → Option Int
  | .number n => some n
  | .byte _ value => some value
  | .char c => some c.toNat
  | .name x => s.number? x
  | .entry array line column => do
    s.entry array (← line.eval functions s) (← column.eval functions s)
  | .binary op left right => do
    op.eval (← left.eval functions s) (← right.eval functions s)
  | .parens e => e.eval functions s
  | .call function argument => do
    let value ← argument.eval functions s
    if function = "byte" then return fit "byte" value
    else
      let meaning ← functions.lookup function
      let (after, result) ← meaning [value] s
      if after = s then return result else none

/-! ## Statements -/

/-- The state after a statement, and the result if it returned from its function. -/
abbrev Outcome := State × Option Int

/-- A number that counts from zero. -/
def natural? (value : Int) : Option Nat := if value < 0 then none else some value.toNat

/-- The signal that a call sends, if it is a call of a library. -/
def signal? (functions : Functions) (s : State) (function : String) (arguments : List Expr) :
    Option Signal := do
  match function, arguments with
  | "lcd.init", [] => return .powerOn
  | "lcd.backlight", [] => return .powerOn
  | "lcd.begin", [_, _] => return .powerOn
  | "lcd.clear", [] => return .clear
  | "lcd.setCursor", [column, line] =>
    return .setCursor (← natural? (← column.eval functions s)) (← natural? (← line.eval functions s))
  | "lcd.write", [index] => return .write (← natural? (← index.eval functions s))
  | "lcd.print", [.char ' '] => return .printSpace
  | "lcd.createChar", [index, .name table] =>
    return .createChar (← natural? (← index.eval functions s)) (← (← s.table? table).mapM natural?)
  | "delay", [time] => return .delay (← natural? (← time.eval functions s))
  | _, _ => none

/-- Call a function of a library or of the sketch. -/
def callFunction (functions : Functions) (s : State) (function : String)
    (arguments : List Expr) : Option State :=
  match functions.lookup function with
  | some meaning => do
    let values ← arguments.mapM (Expr.eval functions s)
    return (← meaning values s).1
  | none => (signal? functions s function arguments).map s.send

/-- Go round while the condition holds, at most `rounds` times. -/
def goRound (condition : State → Option Bool) (body : State → Option Outcome)
    (next : State → Option State) : (rounds : Nat) → State → Option Outcome
  | 0, s => do if ← condition s then none else return (s, none)
  | rounds + 1, s => do
    if ← condition s then
      match ← body s with
      | (s, none) => goRound condition body next rounds (← next s)
      | returned => return returned
    else return (s, none)

/-- Run something in a scope of its own. -/
def inScope (body : State → Option Outcome) (s : State) : Option Outcome :=
  (body s).map fun r => (r.1.leaveScope s, r.2)

/-- What a statement does. -/
def Stmt.exec (functions : Functions) : Stmt → State → Option Outcome
  | .skip => fun s => some (s, none)
  | .seq first rest => fun s => do
    match ← first.exec functions s with
    | (s, none) => rest.exec functions s
    | returned => return returned
  | .blank => fun s => some (s, none)
  | .comment _ => fun s => some (s, none)
  | .declare type name value => fun s => do
    return (s.declare name (.number type (fit type (← value.eval functions s))), none)
  | .table name values => fun s => do
    let values ← values.mapM (Expr.eval functions s)
    return (s.declare name (.table (values.map (fit "byte"))), none)
  | .assign name value => fun s => do
    return (← s.assign name (← value.eval functions s), none)
  | .increase name value => fun s => do
    return (← s.assign name ((← s.number? name) + (← value.eval functions s)), none)
  | .store array line column value => fun s => do
    return (← s.store array (← line.eval functions s) (← column.eval functions s)
      (← value.eval functions s), none)
  | .call function arguments _ => fun s => do
    return (← callFunction functions s function arguments, none)
  | .ifThen condition body => fun s => do
    if (← condition.eval functions s) ≠ 0 then inScope (body.exec functions) s
    else return (s, none)
  | .ifElse condition yes no => fun s => do
    if (← condition.eval functions s) ≠ 0 then inScope (yes.exec functions) s
    else inScope (no.exec functions) s
  | .countTo index bound body => fun s => do
    let rounds := (← bound.eval functions s).toNat
    let (after, result) ← goRound
      (fun s => do return (← s.number? index) < (← bound.eval functions s))
      (inScope (body.exec functions))
      (fun s => do s.assign index ((← s.number? index) + 1))
      rounds (s.declare index (.number "int" 0))
    return (after.leaveScope s, result)
  | .ret value => fun s => do return (s, some (← value.eval functions s))

@[simp] theorem Stmt.exec_block_nil (functions : Functions) (s : State) :
    (Stmt.block []).exec functions s = some (s, none) := rfl

/-- The statements of a block run one after the other, until one returns. -/
theorem Stmt.exec_block_cons (functions : Functions) (first : Stmt) (rest : List Stmt) (s : State) :
    (Stmt.block (first :: rest)).exec functions s = (do
      match ← first.exec functions s with
      | (s, none) => (Stmt.block rest).exec functions s
      | returned => return returned) := rfl

/-! ## Sketches -/

/-- What a function of the sketch does. It sees its parameters and the global
variables; one that returns nothing has the result zero. -/
def meaningOf (functions : Functions) (parameters : List (String × String)) (body : Stmt) :
    Meaning := fun arguments s =>
  if arguments.length = parameters.length then do
    let locals := (parameters.zip arguments).map fun ((type, name), value) =>
      (name, Variable.number type (fit type value))
    let (after, result) ← body.exec functions { s with locals }
    return ({ after with locals := s.locals }, result.getD 0)
  else none

/-- A sketch that has been loaded: its functions, and the memory. -/
structure Loaded where
  functions : Functions
  state : State

namespace Loaded

/-- Add an item. A function can call those that come before it. -/
def add (l : Loaded) : Item → Loaded
  | .blank | .comment _ | .header _ | .object _ _ _ => l
  | .constant type name value | .variable type name value =>
    { l with state :=
      { l.state with globals := (name, .number type (fit type value)) :: l.state.globals } }
  | .frame name =>
    { l with state := { l.state with frames := (name, Grid.replicate 0) :: l.state.frames } }
  | .function _ name parameters body =>
    { l with functions := (name, meaningOf l.functions parameters body) :: l.functions }

/-- Run a function without arguments; the signals are only those that it sends. -/
def run (l : Loaded) (name : String) : Option Loaded := do
  let meaning ← l.functions.lookup name
  let (state, _) ← meaning [] { l.state with signals := [] }
  return { l with state }

/-- Run `loop` some times, with the LCD on which its signals arrive. -/
def rounds : (n : Nat) → Loaded × Lcd → Option (Loaded × Lcd)
  | 0, r => some r
  | n + 1, r => do
    let (l, lcd) ← rounds n r
    let l ← l.run "loop"
    return (l, lcd.receiveAll l.state.signals)

end Loaded

namespace Program

/-- The functions and global variables of a sketch. -/
def load (p : Program) : Loaded :=
  p.foldl Loaded.add ⟨[], State.initial⟩

/-- The sketch and the LCD after `setup` and `n` rounds of `loop`. -/
def after (p : Program) (n : Nat) : Option (Loaded × Lcd) := do
  let l ← p.load.run "setup"
  Loaded.rounds n (l, Lcd.initial.receiveAll l.state.signals)

/-- The LCD after `setup` and `n` rounds of `loop`. -/
def lcd (p : Program) (n : Nat) : Option Lcd := (p.after n).map (·.2)

/-- The signals of round number `n` of `loop`, counting from zero. -/
def signals (p : Program) (n : Nat) : Option (List Signal) :=
  (p.after (n + 1)).map (·.1.state.signals)

end Program

end CharLcd.Sketch
