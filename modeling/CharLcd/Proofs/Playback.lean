import CharLcd.Playback

/-!
# Previews that keep to their plan

- `RepeatingTask.interval?_start_milliseconds`: a task keeps the interval it is given.
- `Playback.Plays`: a preview plays a plan and has advanced a number of times, or it stands
  still at tick 0; one lemma for each operation of previews.
-/

namespace CharLcd

/-- A task keeps an interval of at least one millisecond. -/
theorem RepeatingTask.interval?_start_milliseconds [Clock] (now : Time) {n : Nat} (h : 0 < n) :
    (start now (milliseconds n)).interval? = some (milliseconds n) := by
  rw [interval?_start]
  refine congrArg some (Nat.max_eq_left ?_)
  exact Nat.mul_le_mul_left Clock.perMillisecond h

namespace Playback

/-- While a preview plays, something moves in the plan, the task has the interval of the plan,
and the tick is `n`. Otherwise the tick is 0. -/
structure Plays [Clock] (p : Playback) (plan : Plan) (n : Nat) : Prop where
  animated : p.isPlaying = true → plan.isAnimated = true
  interval : p.isPlaying = true →
    p.task.interval? = some (milliseconds plan.intervalMs.toNat)
  tick : p.isPlaying = true → p.tick = n
  rest : p.isPlaying = false → p.tick = 0

theorem plays_stopped [Clock] (plan : Plan) (n : Nat) : stopped.Plays plan n :=
  ⟨nofun, nofun, nofun, fun _ => rfl⟩

variable {p : Playback} {plan plan' : Plan} {n : Nat} {now : Time}

theorem plays_start? [Clock] (hpos : 0 < plan.intervalMs) (h : start? now plan = some p) :
    p.Plays plan 0 := by
  unfold start? at h
  split at h
  next hanimated =>
    cases h
    refine ⟨fun _ => hanimated, fun _ => ?_, fun _ => rfl, fun _ => rfl⟩
    exact RepeatingTask.interval?_start_milliseconds now (UInt32.lt_iff_toNat_lt.mp hpos)
  next => cases h

/-- A preview that starts again plays the other plan from tick 0, if something moves there. -/
theorem Plays.restart [Clock] (h : p.Plays plan n) (hpos : 0 < plan'.intervalMs) :
    (p.restart now plan').Plays plan'
      (if p.isPlaying && plan'.isAnimated then 0 else n) := by
  unfold Playback.restart
  cases hplaying : p.isPlaying with
  | false =>
    have hstill : p.isPlaying ≠ true := by
      rw [hplaying]
      exact Bool.false_ne_true
    exact ⟨fun h => absurd h hstill, fun h => absurd h hstill, fun h => absurd h hstill, h.rest⟩
  | true =>
    rw [if_pos rfl, Bool.true_and, ← isSome_start? now]
    cases hstart : start? now plan' with
    | none => exact plays_stopped plan' _
    | some started => exact plays_start? hpos hstart

theorem task_advance (p : Playback) (now : Time) :
    (p.advance now).1.task = (p.task.poll now).1 := by
  rw [advance]
  obtain ⟨task, fired⟩ := p.task.poll now
  cases fired <;> rfl

theorem interval?_advance (p : Playback) (now : Time) :
    (p.advance now).1.task.interval? = p.task.interval? := by
  rw [task_advance, RepeatingTask.interval?_poll]

theorem isPlaying_advance (p : Playback) (now : Time) :
    (p.advance now).1.isPlaying = p.isPlaying := by
  have hinterval := congrArg Option.isSome (p.interval?_advance now)
  rw [RepeatingTask.interval?, RepeatingTask.interval?, Option.isSome_map, Option.isSome_map]
    at hinterval
  exact hinterval

theorem advance_of_not_isPlaying (h : p.isPlaying = false) : p.advance now = (p, false) := by
  obtain ⟨⟨running, fired⟩, tick⟩ := p
  cases running with
  | none => rfl
  | some schedule => cases h

/-- A preview that does not advance stays as it is. -/
theorem advance_of_snd_eq_false (h : (p.advance now).2 = false) : (p.advance now).1 = p := by
  obtain ⟨⟨running, fired⟩, tick⟩ := p
  unfold Playback.advance RepeatingTask.poll at h ⊢
  cases running with
  | none => rfl
  | some schedule =>
    dsimp only at h ⊢
    by_cases hdue : now < schedule.due
    · rw [if_pos hdue]
      rfl
    · rw [if_neg hdue] at h
      cases h

/-- Advancing counts itself. -/
theorem Plays.advance [Clock] (h : p.Plays plan n) :
    (p.advance now).1.Plays plan (n + (p.advance now).2.toNat) := by
  cases hplaying : p.isPlaying with
  | false =>
    rw [advance_of_not_isPlaying hplaying]
    exact h
  | true =>
    have hstays : (p.advance now).1.isPlaying = true := by
      rw [isPlaying_advance, hplaying]
    refine ⟨fun _ => h.animated hplaying, fun _ => ?_, fun _ => ?_, fun hrest => ?_⟩
    · rw [interval?_advance, h.interval hplaying]
    · rw [tick_advance, h.tick hplaying]
    · rw [hstays] at hrest
      cases hrest

/-- A preview does not care where the characters of its plan stand. -/
theorem Plays.congr [Clock] (h : p.Plays plan n) (hanimated : plan'.isAnimated = plan.isAnimated)
    (hinterval : plan'.intervalMs = plan.intervalMs) : p.Plays plan' n := by
  refine ⟨?_, ?_, h.tick, h.rest⟩
  · rw [hanimated]
    exact h.animated
  · rw [hinterval]
    exact h.interval

end Playback

end CharLcd
