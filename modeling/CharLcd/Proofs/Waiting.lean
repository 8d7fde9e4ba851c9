import CharLcd.Proofs.RepeatingTask

/-!
# Waiting for a repeating task

The owner of a task sleeps for as long as the task says and then polls it. The two agree in
whatever way the task has been used before, as it never comes due later than an interval from now.

- `Schedule.Near`: a schedule whose due time is within an interval; starting and firing keep it so.
- `RepeatingTask.Action`, `RepeatingTask.Call`: what can be done with a task, and when.
- `RepeatingTask.History`: the calls made of a new task, the last one first, with their answers, and
  the task after them. No call is before an earlier one.
- `RepeatingTask.Idle`: nothing has started the task, or it has been stopped since.
- `RepeatingTask.waiting_agrees_with_firing`: how long to wait, when a poll fires, and what the
  number of firings counts.
-/

namespace CharLcd

/-! ## Schedules -/

/-- A schedule that comes due no later than an interval from now. -/
structure Schedule.Near [Clock] (s : Schedule) (now : Time) : Prop where
  least : RepeatingTask.leastInterval ≤ s.interval
  due_le : s.due ≤ now + s.interval

namespace Schedule.Near

variable [Clock] {s : Schedule} {now later : Time}

theorem mono (h : s.Near now) (hle : now ≤ later) : s.Near later where
  least := h.least
  due_le := Nat.le_trans h.due_le (Nat.add_le_add_right hle s.interval)

theorem interval_pos (h : s.Near now) : 0 < s.interval :=
  Nat.lt_of_lt_of_le RepeatingTask.leastInterval_pos h.least

/-- A task that is due is near its due time again after it has fired. -/
theorem next (h : s.Near now) (hdue : s.due ≤ now) : (s.next now).Near now where
  least := h.least
  due_le := by
    show (if now < s.due + s.interval then s.due + s.interval else now + s.interval) ≤
      now + s.interval
    split
    next => exact Nat.add_le_add_right hdue s.interval
    next => exact Nat.le_refl _

end Schedule.Near

namespace RepeatingTask

/-! ## Calls -/

/-- What can be done with a task. -/
inductive Action where
  | start (every : Time)
  | stop
  | restart (every : Time)
  | poll
  deriving DecidableEq, Repr

/-- Something that is done with a task at some time. -/
structure Call where
  time : Time
  action : Action
  deriving DecidableEq, Repr

/-- The task after a call, and whether the call is a poll that fires. -/
def call [Clock] (t : RepeatingTask) (c : Call) : RepeatingTask × Bool :=
  match c.action with
  | .start every | .restart every => (start c.time every, false)
  | .stop => (stopped, false)
  | .poll => t.poll c.time

/-- A call that has been made, and whether it was a poll that fired. -/
structure Answered extends Call where
  fired : Bool
  deriving DecidableEq, Repr

def Answered.isPoll (a : Answered) : Bool := a.action = .poll

/-- The calls that have been made of a new task, the last one first, and the task after them. Time
does not go back. -/
inductive History [Clock] : RepeatingTask → List Answered → Prop where
  | new : History stopped []
  | call {t : RepeatingTask} {past : List Answered} (h : History t past) (c : Call)
      (hlater : ∀ last ∈ past.head?, last.time ≤ c.time) :
      History (t.call c).1 (⟨c, (t.call c).2⟩ :: past)

/-- The last call that was no poll stopped the task, or there was none. -/
def Idle (past : List Answered) : Prop :=
  ∀ a ∈ past.find? (!·.isPoll), a.action = .stop

section

variable {t : RepeatingTask} {now : Time}

theorem poll_of_none (ht : t.running = none) : t.poll now = (t, false) := by
  simp only [poll, ht]

/-- A poll leaves a running task with its interval. It is near its due time still, which is not
now. -/
theorem exists_running_poll [Clock] {s : Schedule} (ht : t.running = some s) (h : s.Near now) :
    ∃ s', (t.poll now).1.running = some s' ∧ s'.interval = s.interval ∧ s'.Near now ∧
      now < s'.due := by
  rcases Nat.lt_or_ge now s.due with hearly | hdue
  · rw [poll_of_lt ht hearly]
    exact ⟨s, ht, rfl, h, hearly⟩
  · rw [poll_of_le ht hdue]
    exact ⟨s.next now, rfl, rfl, h.next hdue, Schedule.lt_due_next h.interval_pos now⟩

theorem isRunning_poll (t : RepeatingTask) (now : Time) :
    (t.poll now).1.isRunning = t.isRunning := by
  have h := congrArg Option.isSome (interval?_poll t now)
  rwa [interval?, interval?, Option.isSome_map, Option.isSome_map] at h

theorem near_start [Clock] {every : Time} {s : Schedule} (h : (start now every).running = some s) :
    s.Near now := by
  obtain rfl := Option.some.inj h
  exact ⟨Nat.le_max_right every leastInterval, Nat.le_refl _⟩

/-- A task that does not run does not fire, and there is no time to wait for. -/
theorem poll_of_not_isRunning (h : t.isRunning = false) :
    (t.poll now).2 = false ∧ t.timeUntilDue? now = none := by
  have hrunning : t.running = none := Option.isNone_iff_eq_none.mp (Option.isSome_eq_false_iff.mp h)
  rw [poll_of_none hrunning, timeUntilDue?, hrunning]
  exact ⟨rfl, rfl⟩

end

/-! ## What a history keeps -/

namespace History

variable [Clock] {t : RepeatingTask} {past : List Answered} {now : Time}

/-- A running task is near its due time after every call. -/
theorem near (h : History t past) (hnow : ∀ last ∈ past.head?, last.time ≤ now) {s : Schedule}
    (ht : t.running = some s) : s.Near now := by
  induction h generalizing now s with
  | new => cases ht
  | @call t past h c hlater ih =>
    obtain ⟨time, action⟩ := c
    suffices hnear : s.Near time from hnear.mono (hnow _ rfl)
    cases action with
    | start every => exact near_start ht
    | restart every => exact near_start ht
    | stop => cases ht
    | poll =>
      cases hrunning : t.running with
      | none =>
        have hafter : (t.poll time).1.running = some s := ht
        rw [poll_of_none hrunning, hrunning] at hafter
        cases hafter
      | some before =>
        obtain ⟨after, hafter, -, hnear, -⟩ := exists_running_poll hrunning (ih hlater hrunning)
        obtain rfl := Option.some.inj (hafter.symm.trans ht)
        exact hnear

/-- Only starting makes a task run, and only stopping ends that. -/
theorem isRunning_eq_false_iff (h : History t past) : t.isRunning = false ↔ Idle past := by
  induction h with
  | new => exact iff_of_true rfl nofun
  | @call t past h c hlater ih =>
    obtain ⟨time, action⟩ := c
    cases action with
    | start every =>
      exact iff_of_false Bool.noConfusion fun hidle => Action.noConfusion (hidle _ rfl)
    | restart every =>
      exact iff_of_false Bool.noConfusion fun hidle => Action.noConfusion (hidle _ rfl)
    | stop =>
      refine iff_of_true rfl fun a ha => ?_
      obtain rfl := Option.some.inj ha
      rfl
    | poll =>
      show (t.poll time).1.isRunning = false ↔ Idle past
      rw [isRunning_poll]
      exact ih

/-- The number of firings counts the polls that fired since the last other call. -/
theorem fired_eq (h : History t past) :
    t.fired = (past.takeWhile Answered.isPoll).countP (·.fired) := by
  induction h with
  | new => rfl
  | @call t past h c hlater ih =>
    obtain ⟨time, action⟩ := c
    cases action with
    | start every => rfl
    | restart every => rfl
    | stop => rfl
    | poll =>
      have hpoll : Answered.isPoll ⟨⟨time, .poll⟩, (t.poll time).2⟩ = true := rfl
      show (t.poll time).1.fired = _
      rw [fired_poll, ih]
      show _ =
        ((⟨⟨time, .poll⟩, (t.poll time).2⟩ :: past).takeWhile Answered.isPoll).countP (·.fired)
      rw [List.takeWhile_cons_of_pos hpoll, List.countP_cons]
      cases (t.poll time).2 <;> rfl

/-- A call adds one firing at most. -/
theorem fired_le_length (h : History t past) : t.fired ≤ past.length := by
  rw [h.fired_eq]
  exact Nat.le_trans List.countP_le_length (List.takeWhile_sublist _).length_le

end History

/-! ## Waiting and firing -/

/-- Whatever has been done with a task, at any time that is not before the last call of it: a poll
fires if and only if there is no time left to wait. While the task runs its interval is not
below the least one, and after a poll there is some time to wait, but no more than the interval. A
task does not run unless it has been started and not been stopped since; until it is started no poll
fires then and there is no time to wait for. The number of firings is that of the polls that fired
since the task was last started or stopped. -/
theorem waiting_agrees_with_firing [Clock] {t : RepeatingTask} {past : List Answered} {now : Time}
    (h : History t past) (hnow : ∀ last ∈ past.head?, last.time ≤ now) :
    ((t.poll now).2 = true ↔ t.timeUntilDue? now = some 0) ∧
      (t.isRunning = true → ∃ interval wait, t.interval? = some interval ∧
        leastInterval ≤ interval ∧ (t.poll now).1.timeUntilDue? now = some wait ∧
        0 < wait ∧ wait ≤ interval) ∧
      (t.isRunning = false ↔ Idle past) ∧
      (Idle past → ∀ later, (t.poll later).2 = false ∧ t.timeUntilDue? later = none) ∧
      t.fired = (past.takeWhile Answered.isPoll).countP (·.fired) := by
  refine ⟨poll_snd_eq_true_iff, ?_, h.isRunning_eq_false_iff, ?_, h.fired_eq⟩
  · intro hrunning
    obtain ⟨s, hs⟩ := Option.isSome_iff_exists.mp hrunning
    have hnear := h.near hnow hs
    obtain ⟨s', hs', hinterval, hnear', hlt⟩ := exists_running_poll hs hnear
    refine ⟨s.interval, s'.due - now, ?_, hnear.least, ?_, Nat.sub_pos_of_lt hlt, ?_⟩
    · rw [interval?, hs]
      rfl
    · rw [timeUntilDue?, hs']
      rfl
    · rw [← hinterval]
      exact Nat.sub_le_iff_le_add'.mpr hnear'.due_le
  · intro hidle later
    exact poll_of_not_isRunning (h.isRunning_eq_false_iff.mpr hidle)

/-- A task started with no interval at all gets the least one. It is polled early, in time and
after a stall, and at once again. -/
theorem waiting_agrees_with_firing_after_stall :
    let past : List Answered := [⟨⟨7500, .poll⟩, true⟩, ⟨⟨1000, .poll⟩, true⟩,
      ⟨⟨999, .poll⟩, false⟩, ⟨⟨0, .restart 0⟩, false⟩, ⟨⟨0, .start 500⟩, false⟩]
    let t : RepeatingTask := ⟨some ⟨1000, 8500⟩, 2⟩
    History t past ∧ (∀ last ∈ past.head?, last.time ≤ 7500) ∧
      ((t.poll 7500).2 = true ↔ t.timeUntilDue? 7500 = some 0) ∧ t.isRunning = true ∧
      t.fired = (past.takeWhile Answered.isPoll).countP (·.fired) := by
  intro past t
  have h : History t past :=
    ((((History.new.call ⟨0, .start 500⟩ nofun).call ⟨0, .restart 0⟩ (by decide)).call
      ⟨999, .poll⟩ (by decide)).call ⟨1000, .poll⟩ (by decide)).call ⟨7500, .poll⟩ (by decide)
  have hnow : ∀ last ∈ past.head?, last.time ≤ 7500 := by decide
  obtain ⟨hfires, -, -, -, hfired⟩ := waiting_agrees_with_firing h hnow
  exact ⟨h, hnow, hfires, rfl, hfired⟩

end RepeatingTask

end CharLcd
