import CharLcd.Frame
import CharLcd.RowByte

/-!
# The LCD that a sketch drives

An ideal LCD: it keeps the pattern of every character that it is given, and
shows one character, or none, in every slot.

- `Signal`: what a sketch sends, and the pauses that it makes.
- `Lcd`: the patterns, the slots and the cursor; `Lcd.receive` is what a signal
  does, `Lcd.receiveAll` what several do.
- `Lcd.isLit`: whether a pixel of a slot is lit.
- `Signal.ofCycle`: the signals of one round of a plan, and what they leave in
  the slots (`frame_receiveAll_ofCycle`).
-/

namespace CharLcd.Sketch

/-- What a sketch sends to the LCD, and the pauses between. -/
inductive Signal where
  /-- Switch the LCD or its light on. -/
  | powerOn
  /-- Blank every slot. -/
  | clear
  | setCursor (column line : Nat)
  /-- Show a character at the cursor. -/
  | write (index : Nat)
  /-- Show a space at the cursor. -/
  | printSpace
  /-- Keep the row bytes of a character. -/
  | createChar (index : Nat) (rows : List Nat)
  /-- Wait for some milliseconds. -/
  | delay (milliseconds : Nat)
  deriving DecidableEq, Repr

/-- The state of the LCD. -/
structure Lcd where
  /-- The row bytes of the characters, those given last first. -/
  patterns : List (Nat × List Nat)
  /-- The index of the character in every slot. -/
  frame : Frame
  line : Nat
  column : Nat
  deriving DecidableEq, Repr

namespace Lcd

/-- The LCD when the board is switched on. -/
def initial : Lcd := ⟨[], Frame.blank, 0, 0⟩

/-- Put something into the slot at the cursor, which moves to the next column. -/
def put (d : Lcd) (slot : Slot) : Lcd :=
  { d with frame := d.frame.write ⟨d.line, d.column, slot⟩, column := d.column + 1 }

/-- What a signal does. -/
def receive (d : Lcd) : Signal → Lcd
  | .powerOn => d
  | .clear => { d with frame := Frame.blank, line := 0, column := 0 }
  | .setCursor column line => { d with line, column }
  | .write index => d.put (some index)
  | .printSpace => d.put none
  | .createChar index rows => { d with patterns := (index, rows) :: d.patterns }
  | .delay _ => d

/-- What signals do one after the other. -/
def receiveAll (d : Lcd) (signals : List Signal) : Lcd :=
  signals.foldl receive d

@[simp] theorem receiveAll_nil (d : Lcd) : d.receiveAll [] = d := rfl

@[simp] theorem receiveAll_cons (d : Lcd) (s : Signal) (signals : List Signal) :
    d.receiveAll (s :: signals) = (d.receive s).receiveAll signals := rfl

@[simp] theorem receiveAll_append (d : Lcd) (signals more : List Signal) :
    d.receiveAll (signals ++ more) = (d.receiveAll signals).receiveAll more :=
  List.foldl_append

/-- The row bytes of a character. -/
def pattern? (d : Lcd) (index : Nat) : Option (List Nat) := d.patterns.lookup index

/-- Whether a pixel of a slot is lit: its bit is set in the row byte of the
character there. -/
def isLit (d : Lcd) (line : Fin lcdLines) (column : Fin lcdColumns) (row : Fin glyphRows)
    (pixel : Fin glyphColumns) : Bool :=
  match (d.frame.get line column).bind d.pattern? with
  | none => false
  | some rows => (rows[row.val]?).any fun byte : Nat => byte.testBit (glyphColumns - 1 - pixel)

end Lcd

/-! ## Rounds of a plan -/

namespace Signal

/-- The signal that shows the content of a slot at the cursor. -/
def ofSlot : Slot → Signal
  | some index => .write index
  | none => .printSpace

/-- The signals that carry out a slot write. -/
def ofWrite (w : SlotWrite) : List Signal :=
  [.setCursor w.column w.line, ofSlot w.slot]

/-- The signals of one round of the loop, which ends with a pause. -/
def ofCycle (c : Cycle) (pause : Nat) : List Signal :=
  (if c.clears then [.clear] else []) ++ c.writes.flatMap ofWrite ++ [.delay pause]

end Signal

namespace Lcd

@[simp] theorem frame_receiveAll_ofWrite (d : Lcd) (w : SlotWrite) :
    (d.receiveAll (Signal.ofWrite w)).frame = d.frame.write w := by
  obtain ⟨line, column, slot⟩ := w
  cases slot <;> rfl

@[simp] theorem frame_receiveAll_flatMap_ofWrite (d : Lcd) (ws : List SlotWrite) :
    (d.receiveAll (ws.flatMap Signal.ofWrite)).frame = d.frame.writeAll ws := by
  induction ws generalizing d with
  | nil => rfl
  | cons w ws ih =>
    rw [List.flatMap_cons, receiveAll_append, ih, frame_receiveAll_ofWrite, Frame.writeAll_cons]

/-- A round leaves the slots as its writes do, on a blank display if it clears. -/
theorem frame_receiveAll_ofCycle (d : Lcd) (c : Cycle) (pause : Nat) :
    (d.receiveAll (Signal.ofCycle c pause)).frame =
      (if c.clears then Frame.blank else d.frame).writeAll c.writes := by
  have pausing (e : Lcd) : (e.receive (.delay pause)).frame = e.frame := rfl
  rw [Signal.ofCycle, receiveAll_append, receiveAll_cons, receiveAll_nil, pausing,
    receiveAll_append, frame_receiveAll_flatMap_ofWrite]
  cases c.clears <;> rfl

end Lcd

end CharLcd.Sketch
