import CharLcd.Plan
import CharLcd.RepeatingTask

/-!
# Playback of a plan

A preview counts the ticks of a plan while a repeating task runs. Stopped, it
stands at tick 0.

- `Playback`: the task and the tick.
- `start?`, `stopped`, `restart`, `advance`: its operations.
-/

namespace CharLcd

/-- The state of a preview. -/
structure Playback where
  task : RepeatingTask := .stopped
  /-- How often the preview has advanced since it was started. It goes up by one at a time, so no
  run of a program comes near `2 ^ 64`. -/
  tick : Nat := 0
  deriving DecidableEq, Repr

namespace Playback

/-- A preview that is not playing. -/
def stopped : Playback := {}

def isPlaying (p : Playback) : Bool := p.task.isRunning

/-- A preview of a plan started at `now`; `none` when nothing moves in the plan. -/
def start? [Clock] (now : Time) (plan : Plan) : Option Playback :=
  if plan.isAnimated then some { task := .start now (milliseconds plan.intervalMs.toNat) }
  else none

@[simp] theorem isPlaying_stopped : stopped.isPlaying = false := rfl

/-- Only a plan in which something moves can be played. -/
theorem isSome_start? [Clock] (now : Time) (plan : Plan) :
    (start? now plan).isSome = plan.isAnimated := by
  rw [start?]
  cases plan.isAnimated <;> rfl

/-- Start again with another plan, if the preview is playing. -/
def restart [Clock] (p : Playback) (now : Time) (plan : Plan) : Playback :=
  if p.isPlaying then (start? now plan).getD stopped else p

/-- Advance one tick if the task is due, and report whether it was. -/
def advance (p : Playback) (now : Time) : Playback × Bool :=
  let (task, fired) := p.task.poll now
  if fired then ({ task, tick := p.tick + 1 }, true) else ({ p with task }, false)

/-- The tick counts the times that the preview has advanced. -/
theorem tick_advance (p : Playback) (now : Time) :
    (p.advance now).1.tick = p.tick + (p.advance now).2.toNat := by
  rw [advance]
  obtain ⟨task, fired⟩ := p.task.poll now
  cases fired <;> rfl

/-- Time left until the next tick. -/
def timeUntilDue? (p : Playback) (now : Time) : Option Time := p.task.timeUntilDue? now

end Playback

end CharLcd
