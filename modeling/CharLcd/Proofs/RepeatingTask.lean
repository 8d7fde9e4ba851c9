import CharLcd.RepeatingTask
import Mathlib.Data.List.Induction

/-!
# When a repeating task fires

A task is started and then only polled. It never runs ahead of its start, whenever it is polled,
and a caller that stalls gets no burst. A caller that polls at least once in each interval loses
no firing, and being late in one interval does not move the next.

- `RepeatingTask.pollAll`, `RepeatingTask.firings`: the task after polls at some times, and the
  times at which they fire.
- `RepeatingTask.Paced`: times that keep up with no faster beat than that of an interval;
  `paced_firings` and `paced_of_cons_sublist` say that firings do.
- `RepeatingTask.firings_keep_pace`: how often a task fires, and how far apart.
- `RepeatingTask.InSlot`, `RepeatingTask.Prompt`: the slots that intervals make from the start on,
  and polls that miss none of them.
- `RepeatingTask.onBeat`: a task that comes due at the beginning of a slot; `Prompt.onBeat` says
  that a task that is polled promptly does so all the time.
- `RepeatingTask.prompt_polls_fire`: which of the polls fire then, and how often.
-/

namespace CharLcd

/-! ## Schedules -/

namespace Schedule

variable {s : Schedule} {now : Time}

/-- A task that has fired comes due in the future. -/
theorem lt_due_next (hpos : 0 < s.interval) (now : Time) : now < (s.next now).due := by
  show now < if now < s.due + s.interval then s.due + s.interval else now + s.interval
  split
  next hprompt => exact hprompt
  next => exact Nat.lt_add_of_pos_right hpos

/-- A task that fires when it is due, or later, comes due at least an interval later than before. -/
theorem due_add_interval_le_due_next (hdue : s.due ≤ now) :
    s.due + s.interval ≤ (s.next now).due := by
  show s.due + s.interval ≤
    if now < s.due + s.interval then s.due + s.interval else now + s.interval
  split
  next => exact Nat.le_refl _
  next => exact Nat.add_le_add_right hdue s.interval

/-- A task that fires before the interval is over comes due exactly an interval later. -/
theorem next_of_lt (hprompt : now < s.due + s.interval) :
    s.next now = ⟨s.interval, s.due + s.interval⟩ := by
  rw [next, if_pos hprompt]

end Schedule

namespace RepeatingTask

/-! ## Polls -/

/-- The task after polls at some times. -/
def pollAll (t : RepeatingTask) (times : List Time) : RepeatingTask :=
  times.foldl (fun t now => (t.poll now).1) t

/-- Those times of polls at which the task fires. -/
def firings (t : RepeatingTask) : List Time → List Time
  | [] => []
  | now :: rest =>
    if (t.poll now).2 then now :: (t.poll now).1.firings rest else (t.poll now).1.firings rest

theorem pollAll_concat (t : RepeatingTask) (times : List Time) (now : Time) :
    t.pollAll (times ++ [now]) = ((t.pollAll times).poll now).1 := by
  rw [pollAll, List.foldl_append]
  rfl

section

variable {t : RepeatingTask} {s : Schedule} {now : Time}

theorem poll_of_lt (ht : t.running = some s) (h : now < s.due) : t.poll now = (t, false) := by
  simp only [poll, ht, if_pos h]

theorem poll_of_le (ht : t.running = some s) (h : s.due ≤ now) :
    t.poll now = ({ running := some (s.next now), fired := t.fired + 1 }, true) := by
  simp only [poll, ht, if_neg (Nat.not_lt.mpr h)]

theorem firings_cons_of_lt (ht : t.running = some s) (h : now < s.due) (rest : List Time) :
    t.firings (now :: rest) = t.firings rest := by
  rw [firings, poll_of_lt ht h]
  exact if_neg Bool.false_ne_true

theorem firings_cons_of_le (ht : t.running = some s) (h : s.due ≤ now) (rest : List Time) :
    t.firings (now :: rest) =
      now :: firings { running := some (s.next now), fired := t.fired + 1 } rest := by
  rw [firings, poll_of_le ht h]
  exact if_pos rfl

end

/-! ## Pace -/

/-- The first of some times is not before `due`, and each is allowed an interval after the one
before it. -/
def Paced (interval : Time) (due : Time) : List Time → Prop
  | [] => True
  | time :: rest => due ≤ time ∧ Paced interval (due + interval) rest

namespace Paced

variable {interval due due' : Time} {times times' : List Time}

theorem mono (h : Paced interval due times) (hdue : due' ≤ due) : Paced interval due' times := by
  induction times generalizing due due' with
  | nil => trivial
  | cons time rest ih =>
    exact ⟨Nat.le_trans hdue h.1, ih h.2 (Nat.add_le_add_right hdue interval)⟩

/-- With fewer times the pace is slower. -/
theorem sublist (h : Paced interval due times) (hsub : times'.Sublist times) :
    Paced interval due times' := by
  induction hsub generalizing due with
  | slnil => trivial
  | cons time _ ih => exact ih (h.2.mono (Nat.le_add_right due interval))
  | cons_cons time _ ih => exact ⟨h.1, ih h.2⟩

theorem le_getElem (h : Paced interval due times) {k : Nat} (hk : k < times.length) :
    due + k * interval ≤ times[k] := by
  induction k generalizing due times with
  | zero =>
    cases times with
    | nil => cases hk
    | cons time rest =>
      rw [Nat.zero_mul]
      exact h.1
  | succ k ih =>
    cases times with
    | nil => cases hk
    | cons time rest =>
      have hrest := ih h.2 (Nat.lt_of_succ_lt_succ hk)
      rw [Nat.succ_mul, Nat.add_comm (k * interval), ← Nat.add_assoc]
      exact hrest

theorem le_getLast (h : Paced interval due times) {last : Time}
    (hlast : times.getLast? = some last) : due + (times.length - 1) * interval ≤ last := by
  rw [List.getLast?_eq_getElem?] at hlast
  obtain ⟨hk, rfl⟩ := List.getElem?_eq_some_iff.mp hlast
  exact h.le_getElem hk

/-- Up to any time there are no more than fit in. -/
theorem countP_le (h : Paced interval (due + interval) times) (hpos : 0 < interval) (now : Time) :
    times.countP (· ≤ now) ≤ (now - due) / interval := by
  rw [List.countP_eq_length_filter, Nat.le_div_iff_mul_le hpos]
  have hpaced := h.sublist (List.filter_sublist (p := (· ≤ now)))
  have hearly : ∀ time ∈ times.filter (· ≤ now), time ≤ now := fun time htime =>
    of_decide_eq_true (List.mem_filter.mp htime).2
  generalize times.filter (· ≤ now) = early at hpaced hearly
  cases hlast : early.getLast? with
  | none =>
    rw [List.getLast?_eq_none_iff.mp hlast, List.length_nil, Nat.zero_mul]
    exact Nat.zero_le _
  | some last =>
    have hle : due + interval + (early.length - 1) * interval ≤ now :=
      Nat.le_trans (hpaced.le_getLast hlast) (hearly last (List.mem_of_getLast? hlast))
    have hlength : early.length = early.length - 1 + 1 := by
      refine (Nat.sub_add_cancel (List.length_pos_iff.mpr ?_)).symm
      rintro rfl
      cases hlast
    rw [hlength, Nat.succ_mul]
    refine Nat.le_sub_of_add_le (Nat.le_trans (Nat.le_of_eq ?_) hle)
    ac_rfl

end Paced

section

variable {t : RepeatingTask} {s : Schedule}

/-- Whenever the task is polled, it fires at the pace of its interval from its due time on. -/
theorem paced_firings (ht : t.running = some s) (times : List Time) :
    Paced s.interval s.due (t.firings times) := by
  induction times generalizing t s with
  | nil => trivial
  | cons now rest ih =>
    rcases Nat.lt_or_ge now s.due with hearly | hdue
    · rw [firings_cons_of_lt ht hearly]
      exact ih ht
    · rw [firings_cons_of_le ht hdue]
      have hrest := ih (s := s.next now) (t := ⟨some (s.next now), t.fired + 1⟩) rfl
      exact ⟨hdue, hrest.mono (Schedule.due_add_interval_le_due_next hdue)⟩

/-- After a firing the task fires at that pace from the next instant on, also if it was late. -/
theorem paced_of_cons_sublist (ht : t.running = some s) (hpos : 0 < s.interval)
    {times later : List Time} {first : Time} (hsub : (first :: later).Sublist (t.firings times)) :
    Paced s.interval (first + 1) later := by
  induction times generalizing t s with
  | nil => cases hsub
  | cons now rest ih =>
    rcases Nat.lt_or_ge now s.due with hearly | hdue
    · rw [firings_cons_of_lt ht hearly] at hsub
      exact ih ht hpos hsub
    · rw [firings_cons_of_le ht hdue] at hsub
      cases hsub with
      | cons _ hsub => exact ih (s := s.next now) rfl hpos hsub
      | cons_cons _ hsub =>
        have hrest := (paced_firings (s := s.next first) rfl rest).sublist hsub
        exact hrest.mono (Schedule.lt_due_next hpos first)

end

theorem interval_pos [Clock] (every : Time) : 0 < max every leastInterval :=
  Nat.lt_of_lt_of_le leastInterval_pos (Nat.le_max_right every leastInterval)

/-- Whenever a started task is polled, also if time goes back in between: its firings are not
before the ends of as many intervals, so that no more of them are up to any time than intervals
have passed. Of any firings, from the first to the last more time passes than all intervals but
one that lie between them; they are never at one instant. -/
theorem firings_keep_pace [Clock] (started every : Time) (times : List Time) :
    let interval := max every leastInterval
    let fired := (start started every).firings times
    (∀ k (hk : k < fired.length), started + (k + 1) * interval ≤ fired[k]) ∧
      (∀ now, fired.countP (· ≤ now) ≤ (now - started) / interval) ∧
      (∀ (chosen : List Time) (first last : Time), chosen.Sublist fired → 2 ≤ chosen.length →
        chosen.head? = some first → chosen.getLast? = some last →
        (chosen.length - 2) * interval < last - first) ∧
      fired.Pairwise (· < ·) := by
  intro interval fired
  have hpos : 0 < interval := interval_pos every
  have hpaced : Paced interval (started + interval) fired :=
    paced_firings (t := start started every) (s := ⟨interval, started + interval⟩) rfl times
  have hlater {first : Time} {later : List Time} (hsub : (first :: later).Sublist fired) :
      Paced interval (first + 1) later :=
    paced_of_cons_sublist (s := ⟨interval, started + interval⟩) rfl hpos hsub
  refine ⟨?_, ?_, ?_, ?_⟩
  · intro k hk
    rw [Nat.succ_mul, Nat.add_comm (k * interval), ← Nat.add_assoc]
    exact hpaced.le_getElem hk
  · exact hpaced.countP_le hpos
  · intro chosen first last hsub hlength hfirst hlast
    obtain ⟨later, rfl⟩ := List.head?_eq_some_iff.mp hfirst
    cases later with
    | nil => simp at hlength
    | cons second rest =>
      rw [List.getLast?_cons_cons] at hlast
      have hle := (hlater hsub).le_getLast hlast
      refine Nat.lt_sub_of_add_lt (Nat.le_trans (Nat.le_of_eq ?_) hle)
      show rest.length * interval + first + 1 = first + 1 + rest.length * interval
      ac_rfl
  · refine List.pairwise_iff_forall_sublist.mpr fun hsub => ?_
    exact (hlater hsub).1

/-- Two firings can be a microsecond apart when the first is late. After a stall there is one. -/
example :
    (start 0 100000).firings [199999, 200000, 300000] = [199999, 200000, 300000] ∧
      (start 0 100000).firings [350000, 350000, 400000, 450000] = [350000, 450000] := by
  decide

/-! ## Slots -/

/-- A time is in the slot that begins `k` intervals after the start and ends with the next. -/
def InSlot (started interval : Time) (k : Nat) (time : Time) : Prop :=
  started + k * interval ≤ time ∧ time < started + (k + 1) * interval

instance (started interval : Time) (k : Nat) (time : Time) :
    Decidable (InSlot started interval k time) :=
  inferInstanceAs (Decidable (_ ∧ _))

/-- Polls one after the other, up to a last one, with at least one in each slot but the first that
has begun by then. -/
structure Prompt (started interval : Time) (times : List Time) (last : Time) : Prop where
  started_le : ∀ time ∈ times, started ≤ time
  sorted : times.Pairwise (· ≤ ·)
  getLast?_eq : times.getLast? = some last
  slots : ∀ k : Nat, 1 ≤ k → started + k * interval ≤ last →
    ∃ time ∈ times, InSlot started interval k time

/-- A task that has fired `k` times and comes due at the end of slot `k`. -/
def onBeat (started interval : Time) (k : Nat) : RepeatingTask :=
  { running := some ⟨interval, started + (k + 1) * interval⟩, fired := k }

section

variable {started interval : Time}

theorem start_eq_onBeat [Clock] (started every : Time) :
    start started every = onBeat started (max every leastInterval) 0 := by
  rw [onBeat, Nat.zero_add, Nat.one_mul]
  rfl

/-- Every time from the start on is in a slot. -/
theorem inSlot_div (hpos : 0 < interval) {time : Time} (h : started ≤ time) :
    InSlot started interval ((time - started) / interval) time := by
  constructor
  · have hle := Nat.div_mul_le_self (time - started) interval
    exact Nat.add_le_of_le_sub' h hle
  · have hlt := Nat.lt_mul_of_div_lt (Nat.lt_succ_self ((time - started) / interval)) hpos
    exact (Nat.sub_lt_iff_lt_add' h).mp hlt

/-- Later times are in later slots, or in the same. -/
theorem InSlot.le {k j : Nat} {time later : Time} (hk : InSlot started interval k time)
    (hj : InSlot started interval j later) (h : time ≤ later) : k ≤ j := by
  refine Nat.le_of_not_lt fun hlt => ?_
  have hslot : (j + 1) * interval ≤ k * interval := Nat.mul_le_mul_right interval hlt
  have hbegin : started + (j + 1) * interval ≤ time :=
    Nat.le_trans (Nat.add_le_add_left hslot started) hk.1
  exact Nat.lt_irrefl _ (Nat.lt_of_lt_of_le hj.2 (Nat.le_trans hbegin h))

theorem InSlot.unique {k j : Nat} {time : Time} (hk : InSlot started interval k time)
    (hj : InSlot started interval j time) : k = j :=
  Nat.le_antisymm (hk.le hj (Nat.le_refl _)) (hj.le hk (Nat.le_refl _))

/-! ## Prompt polls -/

/-- Within slot `k` nothing fires any more. -/
theorem poll_onBeat {k : Nat} {now : Time} (h : InSlot started interval k now) :
    (onBeat started interval k).poll now = (onBeat started interval k, false) :=
  poll_of_lt rfl h.2

/-- A poll in the next slot fires, and the task stays on the beat however late in the slot it is. -/
theorem poll_onBeat_succ {k : Nat} {now : Time} (h : InSlot started interval (k + 1) now) :
    (onBeat started interval k).poll now = (onBeat started interval (k + 1), true) := by
  have hend : started + (k + 1) * interval + interval = started + (k + 1 + 1) * interval := by
    rw [Nat.succ_mul (k + 1), Nat.add_assoc]
  rw [poll_of_le rfl h.1, Schedule.next_of_lt (by rw [hend]; exact h.2), hend]
  rfl

/-- Slot `k` is the last in which some polls are, or the first one if there are no polls. -/
structure Reached (started interval : Time) (polls : List Time) (k : Nat) : Prop where
  le : ∀ time ∈ polls, ∀ j, InSlot started interval j time → j ≤ k
  mem : k = 0 ∨ ∃ time ∈ polls, InSlot started interval k time

theorem Reached.concat {polls : List Time} {k j : Nat} {now : Time}
    (h : Reached started interval polls k) (hj : InSlot started interval j now) (hle : k ≤ j) :
    Reached started interval (polls ++ [now]) j where
  le time htime i hi := by
    rcases List.mem_append.mp htime with hmem | hmem
    · exact Nat.le_trans (h.le time hmem i hi) hle
    · obtain rfl := List.mem_singleton.mp hmem
      exact Nat.le_of_eq (hi.unique hj)
  mem := .inr ⟨now, List.mem_append_right polls (List.mem_singleton_self now), hj⟩

variable {times : List Time} {last : Time}

namespace Prompt

theorem le_last (h : Prompt started interval times last) {time : Time} (htime : time ∈ times) :
    time ≤ last := by
  obtain ⟨earlier, rfl⟩ := List.getLast?_eq_some_iff.mp h.getLast?_eq
  rcases List.mem_append.mp htime with hmem | hmem
  · exact (List.pairwise_append.mp h.sorted).2.2 time hmem last (List.mem_singleton_self last)
  · exact Nat.le_of_eq (List.mem_singleton.mp hmem)

/-- The next poll is in the slot of the last one or in the next, as a slot that is left out would
have no poll at all. -/
theorem inSlot_next (h : Prompt started interval times last) (hpos : 0 < interval)
    {before later : List Time} {now : Time} (hsplit : times = before ++ now :: later) {k : Nat}
    (hreached : Reached started interval before k) :
    InSlot started interval k now ∨ InSlot started interval (k + 1) now := by
  have hnow : now ∈ times := by
    rw [hsplit]
    exact List.mem_append_right before List.mem_cons_self
  have hsorted := h.sorted
  rw [hsplit, List.pairwise_append, List.pairwise_cons] at hsorted
  obtain ⟨-, ⟨hlater, -⟩, hbefore⟩ := hsorted
  obtain ⟨j, hj⟩ : ∃ j, InSlot started interval j now :=
    ⟨_, inSlot_div hpos (h.started_le now hnow)⟩
  have hge : k ≤ j := by
    rcases hreached.mem with rfl | ⟨time, htime, hk⟩
    · exact Nat.zero_le j
    · exact hk.le hj (hbefore time htime now List.mem_cons_self)
  have hle : j ≤ k + 1 := by
    refine Nat.le_of_not_lt fun hgap => ?_
    have hbegun : started + (k + 1) * interval ≤ last := by
      have hslot := Nat.mul_le_mul_right interval (Nat.le_of_lt hgap)
      exact Nat.le_trans (Nat.add_le_add_left hslot started) (Nat.le_trans hj.1 (h.le_last hnow))
    obtain ⟨time, htime, hmissed⟩ := h.slots (k + 1) (Nat.le_add_left 1 k) hbegun
    rw [hsplit] at htime
    rcases List.mem_append.mp htime with hmem | hmem
    · exact Nat.not_succ_le_self k (hreached.le time hmem (k + 1) hmissed)
    · refine Nat.not_lt.mpr (hj.le hmissed ?_) hgap
      rcases List.mem_cons.mp hmem with rfl | hmem
      · exact Nat.le_refl _
      · exact hlater time hmem
  rcases Nat.eq_or_lt_of_le hge with rfl | hlt
  · exact .inl hj
  · obtain rfl : j = k + 1 := Nat.le_antisymm hle hlt
    exact .inr hj

/-- A task that is polled promptly is on the beat after every poll. -/
theorem onBeat (h : Prompt started interval times last) (hpos : 0 < interval)
    {before rest : List Time} (hsplit : times = before ++ rest) :
    ∃ k, (RepeatingTask.onBeat started interval 0).pollAll before =
        RepeatingTask.onBeat started interval k ∧ Reached started interval before k := by
  induction before using List.reverseRecOn generalizing rest with
  | nil => exact ⟨0, rfl, nofun, .inl rfl⟩
  | append_singleton before now ih =>
    rw [List.append_assoc, List.singleton_append] at hsplit
    obtain ⟨k, hbeat, hreached⟩ := ih hsplit
    rw [pollAll_concat, hbeat]
    rcases h.inSlot_next hpos hsplit hreached with hsame | hnext
    · exact ⟨k, by rw [poll_onBeat hsame], hreached.concat hsame (Nat.le_refl k)⟩
    · exact ⟨k + 1, by rw [poll_onBeat_succ hnext], hreached.concat hnext (Nat.le_succ k)⟩

end Prompt

end

/-- Of polls that leave out no slot exactly the first in each slot fires, but for the slot that
begins with the start. So the task has fired as often as intervals have passed by the last poll,
and it comes due next at the end of the slot that this poll is in. -/
theorem prompt_polls_fire [Clock] {started every last : Time} {times : List Time}
    (h : Prompt started (max every leastInterval) times last) :
    let interval := max every leastInterval
    let task := start started every
    let passed := (last - started) / interval
    (∀ before now later, times = before ++ now :: later →
      (((task.pollAll before).poll now).2 = true ↔
        ∃ k, 1 ≤ k ∧ InSlot started interval k now ∧
          ∀ time ∈ before, ¬ InSlot started interval k time)) ∧
      (task.pollAll times).fired = passed ∧
      (task.pollAll times).running = some ⟨interval, started + (passed + 1) * interval⟩ := by
  intro interval task passed
  have hpos : 0 < interval := interval_pos every
  have htask : task = onBeat started interval 0 := start_eq_onBeat started every
  constructor
  · intro before now later hsplit
    obtain ⟨k, hbeat, hreached⟩ := h.onBeat hpos hsplit
    rw [htask, hbeat]
    rcases h.inSlot_next hpos hsplit hreached with hsame | hnext
    · rw [poll_onBeat hsame]
      refine iff_of_false Bool.false_ne_true ?_
      rintro ⟨j, hj, hslot, hfirst⟩
      obtain rfl := hslot.unique hsame
      rcases hreached.mem with rfl | ⟨time, htime, hin⟩
      · cases hj
      · exact hfirst time htime hin
    · rw [poll_onBeat_succ hnext]
      refine iff_of_true rfl ⟨k + 1, Nat.le_add_left 1 k, hnext, fun time htime hin => ?_⟩
      exact Nat.not_succ_le_self k (hreached.le time htime (k + 1) hin)
  · obtain ⟨k, hbeat, hreached⟩ := h.onBeat hpos (List.append_nil times).symm
    have hlast : last ∈ times := List.mem_of_getLast? h.getLast?_eq
    have hslot : InSlot started interval passed last := inSlot_div hpos (h.started_le last hlast)
    have hpassed : k = passed := by
      refine Nat.le_antisymm ?_ (hreached.le last hlast passed hslot)
      rcases hreached.mem with rfl | ⟨time, htime, hin⟩
      · exact Nat.zero_le passed
      · exact hin.le hslot (h.le_last htime)
    rw [htask, hbeat, hpassed]
    exact ⟨rfl, rfl⟩

/-- In nanoseconds: a poll that comes at the very end of slot 2 fires, and so does the first poll of
slot 3, which follows two nanoseconds later. -/
theorem prompt_polls_fire_late :
    letI := Clock.nanoseconds
    let task := start 0 100000000
    let before := [40000000, 100000000, 150000000]
    let times := before ++ [299999999, 300000001, 300000001]
    Prompt 0 (max 100000000 leastInterval) times 300000001 ∧
      (((task.pollAll before).poll 299999999).2 = true ↔
        ∃ k, 1 ≤ k ∧ InSlot 0 100000000 k 299999999 ∧
          ∀ time ∈ before, ¬ InSlot 0 100000000 k time) ∧
      (task.pollAll times).fired = 3 ∧
      (task.pollAll times).running = some ⟨100000000, 400000000⟩ := by
  let clock := Clock.nanoseconds
  intro task before times
  have hinterval : max 100000000 leastInterval = 100000000 := by decide
  have hprompt : Prompt 0 (max 100000000 leastInterval) times 300000001 := by
    rw [hinterval]
    refine ⟨by decide, by decide, rfl, fun k hk hbegun => ?_⟩
    have hbound : 0 + k * 100000000 ≤ 300000001 := hbegun
    obtain rfl | rfl | rfl : k = 1 ∨ k = 2 ∨ k = 3 := by omega
    · exact ⟨100000000, by decide, by decide⟩
    · exact ⟨299999999, by decide, by decide⟩
    · exact ⟨300000001, by decide, by decide⟩
  obtain ⟨hpolls, hfired, hrunning⟩ := prompt_polls_fire hprompt
  rw [hinterval] at hpolls hfired hrunning
  exact ⟨hprompt, hpolls before 299999999 [300000001, 300000001] rfl, hfired, hrunning⟩

end RepeatingTask

end CharLcd
