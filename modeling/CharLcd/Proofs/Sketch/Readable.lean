import CharLcd.Proofs.RowByte
import CharLcd.Proofs.Sketch.Tokens
import CharLcd.Sketch.Build

/-!
# The sketches that are built can be read back

`Program.readable_build` says so for every table of characters, plan and options.
-/

namespace CharLcd.Sketch

/-! ## Parts of a sketch -/

theorem Stmt.readable_block {body : List Stmt} :
    (Stmt.block body).Readable ↔ ∀ s ∈ body, s.Readable := by
  induction body with
  | nil => exact ⟨fun _ s h => absurd h List.not_mem_nil, fun _ => trivial⟩
  | cons s body ih =>
    rw [List.forall_mem_cons, ← ih]
    exact Iff.rfl

/-- Digits may stand in a word, but not at its beginning. -/
theorem isName_charName (index : Nat) : IsName (charName index) := by
  have hlist : (charName index).toList = 'c' :: 'h' :: 'a' :: 'r' :: Nat.toDigits 10 index := by
    simp [charName]
  refine ⟨⟨?_, ?_⟩, ?_⟩
  · rw [hlist]
    rfl
  · rw [hlist, List.all_eq_true]
    simp only [List.mem_cons]
    rintro c (rfl | rfl | rfl | rfl | hc)
    · rfl
    · rfl
    · rfl
    · rfl
    · exact isWordChar_of_isDigit (isDigit_of_mem_toDigits hc)
  · have hne : ∀ k ∈ keywords, k.toList.take 4 ≠ ['c', 'h', 'a', 'r'] := by decide
    -- no keyword begins like the name of a character
    intro hmem
    refine hne _ hmem ?_
    rw [hlist]
    rfl

theorem isOneLine_character (index : Nat) : IsOneLine ("Character " ++ toString index) := by
  have hlist : ("Character " ++ toString index).toList =
      "Character ".toList ++ Nat.toDigits 10 index := by
    simp
  rw [IsOneLine, hlist, List.mem_append]
  rintro (h | h)
  · exact absurd h (by decide)
  · exact absurd (isDigit_of_mem_toDigits h) (by decide)

theorem readable_connection (transmission : Transmission) :
    ∀ i ∈ connection transmission, i.Readable := by
  cases transmission <;> decide

theorem readable_scrollItems (plan : Plan) (direction : Direction) :
    ∀ i ∈ scrollItems plan direction, i.Readable := by
  have hdelay : (Item.constant "unsigned long" "SCROLL_DELAY_MS" plan.intervalMs.toNat).Readable :=
    ⟨by decide, by decide⟩
  have hconstants : ∀ i ∈ [Item.constant "int" "LCD_COLUMNS" lcdColumns,
      .constant "unsigned long" "SCROLL_DELAY_MS" plan.intervalMs.toNat,
      .variable "int" "scrollOffset" 0], i.Readable :=
    List.forall_mem_cons.mpr ⟨by decide, List.forall_mem_cons.mpr ⟨hdelay, by decide⟩⟩
  have hscroll : ∀ i ∈ [.blank, .comment "Column a glyph occupies after shifting by the current offset",
      scrollFunction direction, .blank], i.Readable := by
    cases direction <;> decide
  rw [scrollItems]
  refine List.forall_mem_append.mpr ⟨List.forall_mem_append.mpr ⟨List.forall_mem_append.mpr
    ⟨hconstants, ?_⟩, hscroll⟩, ?_⟩
  · cases plan.isPartial <;> decide
  · cases plan.isPartial <;> decide

theorem readable_createChar (format : NumberFormat) (index : Nat) (b : Bitmap) :
    ∀ s ∈ createChar format index b, s.Readable := by
  have hbytes : ∀ v ∈ b.bytes.map (Expr.byte format), v.Readable 0 := by
    intro v hv
    obtain ⟨byte, hbyte, rfl⟩ := List.mem_map.mp hv
    obtain ⟨row, -, rfl⟩ := List.mem_map.mp hbyte
    exact Nat.lt_of_lt_of_le row.byte_lt (by decide)
  have hcall : (run "lcd.createChar" [.number index, .name (charName index)]).Readable := by
    refine ⟨by decide, ?_, fun r hr => nomatch hr⟩
    exact List.forall_mem_cons.mpr ⟨trivial, List.forall_mem_cons.mpr
      ⟨(isName_charName index).1, fun a ha => absurd ha List.not_mem_nil⟩⟩
  intro s hs
  simp only [createChar, List.mem_cons, List.not_mem_nil, or_false] at hs
  rcases hs with rfl | rfl | rfl | rfl
  · exact trivial
  · exact isOneLine_character index
  · exact ⟨(isName_charName index).1, hbytes⟩
  · exact hcall

theorem readable_setupBody (t : GlyphTable) (plan : Plan) (o : Options) :
    (setupBody t plan o).Readable := by
  refine Stmt.readable_block.mpr (List.forall_mem_append.mpr ⟨List.forall_mem_append.mpr
    ⟨?_, ?_⟩, ?_⟩)
  · cases o.transmission <;> decide
  · intro s hs
    obtain ⟨e, -, he⟩ := List.mem_flatMap.mp hs
    exact readable_createChar _ _ _ s he
  · cases plan.isPartial <;> decide

theorem readable_drawAt (p : Placement) (column : Expr) (h : column.Readable 0) :
    ∀ s ∈ drawAt p column, s.Readable := by
  have hcursor : (run "lcd.setCursor" [column, .number p.line]).Readable :=
    ⟨by decide, List.forall_mem_cons.mpr ⟨h, List.forall_mem_cons.mpr
      ⟨trivial, fun a ha => absurd ha List.not_mem_nil⟩⟩, fun r hr => nomatch hr⟩
  have hwrite : (run "lcd.write" [.call "byte" (.number p.glyph)]).Readable :=
    ⟨by decide, List.forall_mem_cons.mpr
      ⟨⟨by decide, trivial⟩, fun a ha => absurd ha List.not_mem_nil⟩, fun r hr => nomatch hr⟩
  exact List.forall_mem_cons.mpr ⟨hcursor, List.forall_mem_cons.mpr
    ⟨hwrite, fun s hs => absurd hs List.not_mem_nil⟩⟩

theorem readable_loopBody (plan : Plan) : (loopBody plan).Readable := by
  cases plan with
  | «static» placements =>
    have hdelay : (run "delay" [.number (Plan.static placements).intervalMs.toNat]).Readable :=
      ⟨by decide, List.forall_mem_cons.mpr ⟨trivial, fun a ha => absurd ha List.not_mem_nil⟩,
        fun r hr => nomatch hr⟩
    refine Stmt.readable_block.mpr (List.forall_mem_append.mpr ⟨List.forall_mem_append.mpr
      ⟨by decide, ?_⟩, List.forall_mem_cons.mpr ⟨hdelay, fun s hs => absurd hs List.not_mem_nil⟩⟩)
    intro s hs
    obtain ⟨p, -, hp⟩ := List.mem_flatMap.mp hs
    exact readable_drawAt p (.number p.column) trivial s hp
  | naive placements direction =>
    refine Stmt.readable_block.mpr (List.forall_mem_append.mpr ⟨List.forall_mem_append.mpr
      ⟨by decide, ?_⟩, by decide⟩)
    intro s hs
    obtain ⟨p, -, hp⟩ := List.mem_flatMap.mp hs
    exact readable_drawAt p (.call "scrollColumn" (.number p.column))
      ⟨by decide, trivial⟩ s hp
  | buffered placements direction interval =>
    refine Stmt.readable_block.mpr (List.forall_mem_append.mpr ⟨List.forall_mem_append.mpr
      ⟨List.forall_mem_append.mpr ⟨by decide, ?_⟩, by decide⟩, by decide⟩)
    intro s hs
    obtain ⟨p, -, rfl⟩ := List.mem_map.mp hs
    refine ⟨by decide, fun a ha => ?_, fun r hr => nomatch hr⟩
    simp only [List.mem_cons, List.not_mem_nil, or_false] at ha
    rcases ha with rfl | rfl | rfl <;> exact trivial

/-! ## The whole sketch -/

/-- Every sketch that is built can be read back. -/
theorem Program.readable_build (t : GlyphTable) (plan : Plan) (o : Options) :
    (Program.build t plan o).Readable := by
  have hsetup : (Item.function "void" "setup" [] (setupBody t plan o)).Readable :=
    ⟨by decide, by decide, fun p hp => absurd hp List.not_mem_nil, readable_setupBody t plan o⟩
  have hloop : (Item.function "void" "loop" [] (loopBody plan)).Readable :=
    ⟨by decide, by decide, fun p hp => absurd hp List.not_mem_nil, readable_loopBody plan⟩
  refine List.forall_mem_append.mpr ⟨List.forall_mem_append.mpr
    ⟨readable_connection o.transmission, ?_⟩, ?_⟩
  · cases plan.direction? with
    | none => exact fun i hi => absurd hi List.not_mem_nil
    | some direction => exact readable_scrollItems plan direction
  · exact List.forall_mem_cons.mpr ⟨hsetup, List.forall_mem_cons.mpr ⟨trivial,
      List.forall_mem_cons.mpr ⟨hloop, fun i hi => absurd hi List.not_mem_nil⟩⟩⟩

end CharLcd.Sketch
