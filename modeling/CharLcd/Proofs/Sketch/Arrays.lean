import CharLcd.Lists
import CharLcd.Sketch.Machine

/-!
# The frame arrays of a sketch

A buffered sketch keeps two frames as arrays of bytes, in which a byte of its own
stands for an empty slot.

- `slotByte`, `Frame.bytes`: slots and frames as the arrays hold them.
- `Frame.Numbered`: no index is mistaken for an empty slot (`slotByte_inj`).
- `State.Holds`: what an array holds; `State.store_of_holds`, `Rewritten`: storing
  a slot changes that slot of one array.
-/

namespace CharLcd

/-- The byte that stands for a slot in an array of the sketch. -/
def slotByte : Slot → Int
  | some index => index
  | none => 255

namespace Frame

/-- A frame as an array of the sketch holds it. -/
def bytes (f : Frame) : Grid lcdLines lcdColumns Int := f.map slotByte

/-- No character of the frame has the index that stands for an empty slot. -/
def Numbered (f : Frame) : Prop :=
  ∀ line column index, f.get line column = some index → index < 255

theorem numbered_blank : blank.Numbered := by
  intro line column index h
  rw [get_blank] at h
  cases h

@[simp] theorem get_bytes (f : Frame) (line : Fin lcdLines) (column : Fin lcdColumns) :
    f.bytes.get line column = slotByte (f.get line column) :=
  Grid.get_map _ _ _ _

/-- Writing a slot writes its byte. -/
theorem bytes_set (f : Frame) (line : Fin lcdLines) (column : Fin lcdColumns) (slot : Slot) :
    Frame.bytes (f.set line column slot) = f.bytes.set line column (slotByte slot) := by
  apply Grid.ext_get
  intro line' column'
  rw [get_bytes, Grid.get_set, Grid.get_set, get_bytes]
  split <;> rfl

end Frame

/-- Slots whose indices leave room for the empty one have different bytes. -/
theorem slotByte_inj {a b : Slot} (ha : ∀ index, a = some index → index < 255)
    (hb : ∀ index, b = some index → index < 255) : slotByte a = slotByte b ↔ a = b := by
  cases a with
  | none =>
    cases b with
    | none => simp
    | some j =>
      have := hb j rfl
      simp only [slotByte, reduceCtorEq, iff_false]
      omega
  | some i =>
    have := ha i rfl
    cases b with
    | none =>
      simp only [slotByte, reduceCtorEq, iff_false]
      omega
    | some j => rw [slotByte, slotByte, Int.natCast_inj, Option.some.injEq]

theorem slotByte_eq_blank {a : Slot} (ha : ∀ index, a = some index → index < 255) :
    slotByte a = 255 ↔ a = none :=
  slotByte_inj (b := none) ha (fun _ h => nomatch h)

/-- A byte keeps what stands for a slot. -/
theorem fit_slotByte {a : Slot} (ha : ∀ index, a = some index → index < 255) :
    Sketch.fit "byte" (slotByte a) = slotByte a := by
  cases a with
  | none => rfl
  | some i =>
    have := ha i rfl
    simp only [Sketch.fit, slotByte]
    omega

/-! ## Arrays in memory -/

namespace Sketch

/-- An array of the sketch holds a frame. -/
def State.Holds (s : State) (array : String) (f : Frame) : Prop :=
  s.frames.lookup array = some f.bytes

/-- The arrays of a state after one of them has come to hold a frame. -/
structure Rewritten (array : String) (f : Frame)
    (before after : List (String × Grid lcdLines lcdColumns Int)) : Prop where
  holds : after.lookup array = some f.bytes
  others : ∀ other, other ≠ array → after.lookup other = before.lookup other

namespace State

theorem entry_of_holds {s : State} {array : String} {f : Frame} (h : s.Holds array f)
    (line : Fin lcdLines) (column : Fin lcdColumns) :
    s.entry array line column = some (slotByte (f.get line column)) := by
  rw [Holds] at h
  simp [entry, h]

/-- Storing the byte of a slot changes that slot of one array. -/
theorem store_of_holds {s : State} {array : String} {f : Frame} (h : s.Holds array f)
    (line : Fin lcdLines) (column : Fin lcdColumns) (slot : Slot)
    (hslot : ∀ index, slot = some index → index < 255) :
    ∃ frames, s.store array line column (slotByte slot) = some { s with frames } ∧
      Rewritten array (f.set line column slot) s.frames frames := by
  refine ⟨(array, Frame.bytes (f.set line column slot)) :: s.frames.filter (·.1 ≠ array), ?_,
    lookup_replace_self _ _, fun other hne => lookup_replace_of_ne _ _ hne⟩
  rw [Holds] at h
  simp [store, h, fit_slotByte hslot, Frame.bytes_set]

end State

end Sketch

end CharLcd
