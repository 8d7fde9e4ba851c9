/-!
# Sketch options

How the sketch reaches the LCD, how it spells row bytes, and whether and how
the picture scrolls.

- `Options`: all settings, with the defaults of a new design; `clamped` keeps
  the interval positive.
- `Transmission`, `NumberFormat`, `Direction`: the three choices, each with
  the other choice (`toggle`) and its name in design files (`name`).
-/

namespace CharLcd

/-- How the board is wired to the LCD. -/
inductive Transmission where
  | parallel
  | i2c
  deriving DecidableEq, Repr

/-- How row bytes are spelled in the sketch. -/
inductive NumberFormat where
  | hex
  | binary
  deriving DecidableEq, Repr

/-- The way the picture travels. -/
inductive Direction where
  /-- From right to left. -/
  | left
  /-- From left to right. -/
  | right
  deriving DecidableEq, Repr

namespace Transmission

/-- The other kind of wiring. -/
def toggle : Transmission → Transmission
  | parallel => i2c
  | i2c => parallel

@[simp] theorem toggle_toggle (t : Transmission) : t.toggle.toggle = t := by
  cases t <;> rfl

/-- Name in design files. -/
def name : Transmission → String
  | parallel => "parallel"
  | i2c => "i2c"

/-- Every kind of wiring, the default first. -/
def all : List Transmission := [parallel, i2c]

@[simp] theorem mem_all (t : Transmission) : t ∈ all := by
  cases t <;> decide

end Transmission

namespace NumberFormat

/-- The other spelling. -/
def toggle : NumberFormat → NumberFormat
  | hex => binary
  | binary => hex

@[simp] theorem toggle_toggle (f : NumberFormat) : f.toggle.toggle = f := by
  cases f <;> rfl

/-- Name in design files. -/
def name : NumberFormat → String
  | hex => "hex"
  | binary => "binary"

/-- Every spelling, the default first. -/
def all : List NumberFormat := [hex, binary]

@[simp] theorem mem_all (f : NumberFormat) : f ∈ all := by
  cases f <;> decide

end NumberFormat

namespace Direction

/-- The opposite direction. -/
def toggle : Direction → Direction
  | left => right
  | right => left

@[simp] theorem toggle_toggle (d : Direction) : d.toggle.toggle = d := by
  cases d <;> rfl

/-- Name in design files. -/
def name : Direction → String
  | left => "left"
  | right => "right"

/-- Every direction, the default first. -/
def all : List Direction := [left, right]

@[simp] theorem mem_all (d : Direction) : d ∈ all := by
  cases d <;> decide

end Direction

/-- Interval of a new design, in milliseconds. -/
def defaultIntervalMs : UInt32 := 300

/-- The settings a sketch is generated with. -/
structure Options where
  transmission : Transmission := .parallel
  numberFormat : NumberFormat := .hex
  scrolling : Bool := false
  /-- Write only the slots that changed since the previous frame. -/
  buffered : Bool := false
  direction : Direction := .left
  /-- Milliseconds between two steps of a buffered scroll. -/
  intervalMs : UInt32 := defaultIntervalMs
  deriving DecidableEq, Repr

namespace Options

/-- The same options with an interval of at least one millisecond. -/
def clamped (o : Options) : Options :=
  { o with intervalMs := max o.intervalMs 1 }

/-- The interval becomes the larger of the two. -/
theorem toNat_intervalMs_clamped (o : Options) :
    o.clamped.intervalMs.toNat = max o.intervalMs.toNat 1 := by
  show (max o.intervalMs 1).toNat = max o.intervalMs.toNat (1 : UInt32).toNat
  simp only [Max.max, UInt32.le_iff_toNat_le]
  split <;> rfl

theorem intervalMs_clamped_pos (o : Options) : 0 < o.clamped.intervalMs := by
  rw [UInt32.lt_iff_toNat_lt, toNat_intervalMs_clamped, UInt32.toNat_zero]
  omega

/-- Options with a positive interval stay as they are. -/
theorem clamped_eq_self {o : Options} (h : 0 < o.intervalMs) : o.clamped = o := by
  have same : o.clamped.intervalMs = o.intervalMs := by
    rw [UInt32.lt_iff_toNat_lt, UInt32.toNat_zero] at h
    apply UInt32.toNat.inj
    rw [toNat_intervalMs_clamped]
    omega
  cases o
  simp only [clamped] at same ⊢
  rw [same]

@[simp] theorem clamped_clamped (o : Options) : o.clamped.clamped = o.clamped :=
  clamped_eq_self o.intervalMs_clamped_pos

/-- Lengthen the interval, stopping at the largest one. -/
def slower (step : UInt32) (o : Options) : Options :=
  { o with intervalMs :=
      if o.intervalMs.toNat + step.toNat < UInt32.size then o.intervalMs + step
      else UInt32.ofNat (UInt32.size - 1) }

/-- Shorten the interval, stopping at one millisecond. -/
def faster (step : UInt32) (o : Options) : Options :=
  { o with intervalMs := UInt32.ofNat (max (o.intervalMs.toNat - step.toNat) 1) }

theorem toNat_intervalMs_slower (step : UInt32) (o : Options) :
    (o.slower step).intervalMs.toNat =
      min (o.intervalMs.toNat + step.toNat) (UInt32.size - 1) := by
  unfold slower
  dsimp only
  split
  next hfits =>
    rw [UInt32.toNat_add, Nat.mod_eq_of_lt hfits]
    omega
  next hlarge =>
    rw [UInt32.toNat_ofNat_of_lt' (by decide)]
    omega

theorem toNat_intervalMs_faster (step : UInt32) (o : Options) :
    (o.faster step).intervalMs.toNat = max (o.intervalMs.toNat - step.toNat) 1 := by
  have hlt : o.intervalMs.toNat < UInt32.size := o.intervalMs.toNat_lt
  have hfits : max (o.intervalMs.toNat - step.toNat) 1 < UInt32.size := by
    rw [Nat.max_lt]
    exact ⟨Nat.lt_of_le_of_lt (Nat.sub_le _ _) hlt, by decide⟩
  exact UInt32.toNat_ofNat_of_lt' hfits

end Options

end CharLcd
