import CharLcd.Proofs.Picture
import CharLcd.Proofs.RowByte
import CharLcd.Proofs.Sketch.Execution
import CharLcd.Proofs.Sketch.Parsing
import CharLcd.Proofs.Sketch.Plain
import CharLcd.Proofs.Sketch.Readable

/-!
# The sketch of a design

What the text of a generated sketch does when it is read as a program.

- `ofText?_generate`: the text is read as the sketch that was built.
- `shown_by_generate`: the LCD shows the design, scrolled as the options say.
- `signals_generate`: every round of the loop sends the signals of its cycle.
-/

namespace CharLcd

namespace Compiled

variable (d : Display) (o : Options)

/-- There are fewer characters than a byte has values. -/
theorem drawable_of_mem_placements {p : Placement} (h : p ∈ (ofDesign d o).plan.placements) :
    p.Drawable := by
  obtain ⟨line, column, index, hindex, rfl⟩ := mem_placements_ofDesign.mp h
  refine ⟨line.isLt, ?_⟩
  have hlt := GlyphTable.lt_size_of_index? hindex
  have hle := GlyphTable.size_ofDisplay_le d
  show index < 255
  simp only [lcdLines, lcdColumns] at hle
  omega

end Compiled

namespace Sketch

open Compiled

/-! ## The text -/

/-- The text of a sketch is read as the sketch that was built, but for what means nothing. -/
theorem ofText?_generate (d : Display) (o : Options) :
    Program.ofText? (generate d o) = some (ofDesign d o).program.plain :=
  Program.ofText?_text (Program.readable_build _ _ o)

/-! ## The LCD -/

namespace Lcd

/-- The row bytes of a character that has an index. -/
theorem pattern?_of_shows {t : GlyphTable} {plan : Plan} {n : Nat} {lcd : Lcd}
    (h : lcd.Shows t plan n) {index : Nat} {b : Bitmap} (hindex : t.get? index = some b) :
    lcd.pattern? index = some b.bytes := by
  rw [pattern?, h.patterns, patternsOf]
  -- an index stands before one character only, so the order of the entries does not matter
  refine lookup_eq_some_of_unique ?_ ?_
  · rw [List.mem_reverse, List.mem_map]
    exact ⟨(index, b), GlyphTable.mem_entries.mpr hindex, rfl⟩
  · intro rows hrows
    rw [List.mem_reverse, List.mem_map] at hrows
    obtain ⟨⟨i, c⟩, hmem, heq⟩ := hrows
    obtain ⟨rfl, rfl⟩ := Prod.mk.inj heq
    have hc := GlyphTable.mem_entries.mp hmem
    rw [hindex] at hc
    rw [Option.some.inj hc]

/-- What a slot shows once the design has been drawn. -/
theorem isLit_of_shows {d : Display} {o : Options} {n : Nat} {lcd : Lcd}
    (h : lcd.Shows (GlyphTable.ofDisplay d) (ofDesign d o).plan (n + 1)) (line : Fin lcdLines)
    (column : Fin lcdColumns) (row : Fin glyphRows) (pixel : Fin glyphColumns) :
    lcd.isLit line column row pixel = (d.get line (o.source n column)).get row pixel := by
  have hslot : Grid.get lcd.frame line column =
      (GlyphTable.ofDisplay d).index? (d.get line (o.source n column)) := by
    rw [h.frame]
    exact get_frame_ofDesign n line column
  rw [isLit, hslot]
  cases hindex : (GlyphTable.ofDisplay d).index? (d.get line (o.source n column)) with
  | none =>
    -- without an index the cell is blank, and the slot is empty
    have hblank := (GlyphTable.index?_ofDisplay_eq_none_iff d line _).mp hindex
    rw [hblank, Bitmap.get_blank]
    rfl
  | some index =>
    rw [Option.bind_some, pattern?_of_shows h (GlyphTable.get?_of_index? hindex)]
    exact Bitmap.testBit_bytes _ row pixel

end Lcd

/-- The text of a sketch brings the LCD to show what the plan has drawn. -/
theorem lcd_generate (d : Display) (o : Options) (n : Nat) :
    ∃ lcd, ((Program.ofText? (generate d o)).bind fun sketch => sketch.lcd n) = some lcd ∧
      lcd.Shows (GlyphTable.ofDisplay d) (ofDesign d o).plan n := by
  obtain ⟨l, lcd, hafter, -, hshows⟩ := after_build (GlyphTable.ofDisplay d) o
    (fun p hp => drawable_of_mem_placements d o hp) n
  refine ⟨lcd, ?_, hshows⟩
  rw [ofText?_generate, Option.bind_some, Program.lcd_plain]
  exact congrArg (Option.map Prod.snd) hafter

/-- The LCD shows the design: after `setup` and `n + 1` rounds of `loop`, every slot has exactly
the pixels of the cell that scrolling has brought there, and is empty where that cell is blank. -/
theorem shown_by_generate (d : Display) (o : Options) (n : Nat) :
    ∃ lcd, ((Program.ofText? (generate d o)).bind fun sketch => sketch.lcd (n + 1)) = some lcd ∧
      ∀ line column,
        (∀ row pixel, lcd.isLit line column row pixel =
          (d.get line (o.source n column)).get row pixel) ∧
        (lcd.frame.get line column = none ↔ d.get line (o.source n column) = Bitmap.blank) := by
  obtain ⟨lcd, hlcd, hshows⟩ := lcd_generate d o (n + 1)
  refine ⟨lcd, hlcd, fun line column => ⟨Lcd.isLit_of_shows hshows line column, ?_⟩⟩
  rw [hshows.frame]
  show Grid.get (Frame.ofPlan (ofDesign d o).plan n) line column = none ↔ _
  rw [get_frame_ofDesign, GlyphTable.index?_ofDisplay_eq_none_iff]

/-- Every round of the loop sends the signals of its cycle and nothing else: it clears if the cycle
does, carries out the writes in their order, and pauses for the interval of the plan. -/
theorem signals_generate (d : Display) (o : Options) (n : Nat) :
    ((Program.ofText? (generate d o)).bind fun sketch => sketch.signals n) =
      some (Signal.ofCycle (Cycle.ofPlan (ofDesign d o).plan n)
        (ofDesign d o).plan.intervalMs.toNat) := by
  rw [ofText?_generate, Option.bind_some, Program.signals_plain]
  exact signals_build _ o (fun p hp => drawable_of_mem_placements d o hp) n

end Sketch

end CharLcd
