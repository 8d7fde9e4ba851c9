/-!
# Repeating tasks

A task that comes due again and again until it is stopped. Nothing happens in
the background: whoever owns the task asks how long to wait and polls it.

- `Clock`: how finely time is counted. Tasks and playback do the same on every
  clock; the preview and the editor run on `Clock.nanoseconds`.
- `RepeatingTask`: the state of a task.
- `start`, `stopped`, `poll`: its operations; a poll fires at most once.
- `timeUntilDue?`: how long to wait; a poll fires exactly when nothing is left
  (`poll_snd_eq_true_iff`).
-/

namespace CharLcd

/-- An instant or a length of time, in the units of a clock. -/
abbrev Time := Nat

/-- How finely time is counted. -/
class Clock where
  /-- The units of time in a millisecond. -/
  perMillisecond : Nat
  perMillisecond_pos : 0 < perMillisecond

/-- Time in nanoseconds. -/
@[reducible] def Clock.nanoseconds : Clock := ⟨1000000, by decide⟩

/-- Time in microseconds, unless another clock is chosen. -/
instance Clock.microseconds : Clock := ⟨1000, by decide⟩

/-- The time that a number of milliseconds takes. -/
def milliseconds [Clock] (n : Nat) : Time := Clock.perMillisecond * n

/-- A running task: its interval, and when it comes due next. -/
structure Schedule where
  interval : Time
  due : Time
  deriving DecidableEq, Repr

/-- The schedule after firing at `now`. Intervals that have passed already are
left out. -/
def Schedule.next (s : Schedule) (now : Time) : Schedule :=
  { s with due := if now < s.due + s.interval then s.due + s.interval else now + s.interval }

/-- A task, running or not. -/
structure RepeatingTask where
  running : Option Schedule := none
  /-- How often the task has fired since it was last started or stopped. One poll
  adds one at most, so no run of a program comes near `2 ^ 64`. -/
  fired : Nat := 0
  deriving DecidableEq, Repr

namespace RepeatingTask

/-- The shortest interval of a task. -/
def leastInterval [Clock] : Time := milliseconds 1

theorem leastInterval_pos [Clock] : 0 < leastInterval :=
  Nat.mul_pos Clock.perMillisecond_pos Nat.one_pos

def isRunning (t : RepeatingTask) : Bool := t.running.isSome

/-- The interval of a running task. -/
def interval? (t : RepeatingTask) : Option Time := t.running.map (·.interval)

/-- A task that does not run. -/
def stopped : RepeatingTask := {}

/-- A task started at `now`: it comes due after one interval. -/
def start [Clock] (now every : Time) : RepeatingTask :=
  let interval := max every leastInterval
  { running := some ⟨interval, now + interval⟩ }

@[simp] theorem isRunning_stopped : stopped.isRunning = false := rfl

@[simp] theorem isRunning_start [Clock] (now every : Time) :
    (start now every).isRunning = true := rfl

@[simp] theorem fired_start [Clock] (now every : Time) : (start now every).fired = 0 := rfl

@[simp] theorem interval?_start [Clock] (now every : Time) :
    (start now every).interval? = some (max every leastInterval) := rfl

/-- Time left until the task comes due. -/
def timeUntilDue? (t : RepeatingTask) (now : Time) : Option Time :=
  t.running.map fun s => s.due - now

/-- Fire once if the task is due, and report whether it fired. -/
def poll (t : RepeatingTask) (now : Time) : RepeatingTask × Bool :=
  match t.running with
  | none => (t, false)
  | some s =>
    if now < s.due then (t, false)
    else ({ running := some (s.next now), fired := t.fired + 1 }, true)

/-- A poll fires exactly when nothing is left to wait. -/
theorem poll_snd_eq_true_iff {t : RepeatingTask} {now : Time} :
    (t.poll now).2 = true ↔ t.timeUntilDue? now = some 0 := by
  obtain ⟨running, fired⟩ := t
  cases running with
  | none => simp [poll, timeUntilDue?]
  | some s =>
    by_cases h : now < s.due
    · simp [poll, timeUntilDue?, h, Nat.sub_eq_zero_iff_le]
    · simp [poll, timeUntilDue?, h, Nat.not_lt.mp h]

/-- A poll counts itself when it fires. -/
theorem fired_poll (t : RepeatingTask) (now : Time) :
    (t.poll now).1.fired = t.fired + (t.poll now).2.toNat := by
  rw [poll]
  split
  · rfl
  · split <;> rfl

/-- A poll neither starts nor stops a task, and leaves its interval alone. -/
@[simp] theorem interval?_poll (t : RepeatingTask) (now : Time) :
    (t.poll now).1.interval? = t.interval? := by
  rw [poll]
  split
  · rfl
  next s h =>
    split
    · rfl
    · simp only [interval?, h, Option.map_some, Schedule.next]

end RepeatingTask

end CharLcd
