import CharLcd.Compiled
import CharLcd.Proofs.GlyphTable

/-!
# How long a sketch is

A character takes thirteen lines of a sketch and a placement at most two. There are at most as many
of them as positions on the display, and all other parts have a fixed number of lines.

- `Sketch.length_lines_flatMap_le`: the lines of statements that are written for every part of a
  list.
- `Sketch.length_lines_build_le`: the length of a sketch.
- `Compiled.length_codeLines_lt`: no design has a sketch of a thousand lines.
-/

namespace CharLcd

/-- There are at most as many characters on a display as it has positions. -/
theorem SlotMap.length_occupied_le (m : SlotMap) : m.occupied.length ≤ lcdLines * lcdColumns := by
  refine Nat.le_trans (List.length_filterMap_le _ _) ?_
  decide

namespace Sketch

variable (depth : Nat) (t : GlyphTable) (plan : Plan) (o : Options)

/-! ## Statements -/

theorem length_valueLines (values : List Expr) :
    (valueLines depth values).length = values.length := by
  fun_induction valueLines depth values with
  | case1 => rfl
  | case2 => rfl
  | case3 e rest _ ih => rw [List.length_cons, ih, List.length_cons]

theorem length_lines_flatMap_le {α : Type} {stmts : α → List Stmt} {n : Nat}
    (h : ∀ a, ((stmts a).flatMap (Stmt.lines depth)).length ≤ n) (parts : List α) :
    ((parts.flatMap stmts).flatMap (Stmt.lines depth)).length ≤ n * parts.length := by
  induction parts with
  | nil => exact Nat.zero_le _
  | cons a rest ih =>
    rw [List.flatMap_cons, List.flatMap_append, List.length_append, List.length_cons,
      Nat.mul_succ, Nat.add_comm]
    exact Nat.add_le_add ih (h a)

/-- The comment, the array with its eight values, the call, and an empty line. -/
theorem length_lines_createChar (format : NumberFormat) (index : Nat) (b : Bitmap) :
    ((createChar format index b).flatMap (Stmt.lines depth)).length = 13 := by
  simp [createChar, Stmt.lines, run, length_valueLines, Bitmap.bytes]

theorem length_lines_block (first middle last : List Stmt) :
    ((Stmt.block (first ++ middle ++ last)).lines depth).length =
      (first.flatMap (Stmt.lines depth)).length + (middle.flatMap (Stmt.lines depth)).length +
        (last.flatMap (Stmt.lines depth)).length := by
  rw [Stmt.lines_block, List.flatMap_append, List.flatMap_append, List.length_append,
    List.length_append]

theorem length_lines_setupBody_le :
    ((setupBody t plan o).lines depth).length ≤ 2 + 13 * t.size + 7 := by
  have hpower : ((powerOn o.transmission).flatMap (Stmt.lines depth)).length ≤ 2 := by
    cases o.transmission with
    | i2c => exact Nat.le_refl 2
    | parallel => exact Nat.le_succ 1
  have hchars : ((t.entries.flatMap fun e => createChar o.numberFormat e.1 e.2).flatMap
      (Stmt.lines depth)).length ≤ 13 * t.size := by
    have hsize : t.entries.length = t.size := by
      rw [GlyphTable.entries, List.length_map, List.length_zipIdx, GlyphTable.size]
    rw [← hsize]
    refine length_lines_flatMap_le depth (fun e => ?_) t.entries
    exact Nat.le_of_eq (length_lines_createChar depth _ _ _)
  have hclear : ((if plan.isPartial then [.blank, clearFrame "previousFrame", run "lcd.clear" []]
      else []).flatMap (Stmt.lines depth)).length ≤ 7 := by
    cases plan.isPartial with
    | true => exact Nat.le_refl 7
    | false => exact Nat.zero_le 7
  rw [setupBody, length_lines_block]
  exact Nat.add_le_add (Nat.add_le_add hpower hchars) hclear

theorem length_lines_loopBody_le :
    ((loopBody plan).lines depth).length ≤ 5 + 2 * plan.placements.length + 3 := by
  have hdraw (column : Placement → Expr) (ps : List Placement) :
      ((ps.flatMap fun p => drawAt p (column p)).flatMap (Stmt.lines depth)).length ≤
        2 * ps.length :=
    length_lines_flatMap_le depth (fun p => Nat.le_refl 2) ps
  have hplace (call : Placement → Stmt) (hcall : ∀ p, ((call p).lines depth).length = 1)
      (ps : List Placement) :
      ((ps.map call).flatMap (Stmt.lines depth)).length ≤ 2 * ps.length := by
    rw [List.map_eq_flatMap]
    refine length_lines_flatMap_le depth (fun p => ?_) ps
    rw [List.flatMap_singleton, hcall]
    exact Nat.le_succ 1
  cases plan with
  | static placements =>
    rw [loopBody, length_lines_block]
    exact Nat.add_le_add (Nat.add_le_add (Nat.le_add_right 1 4) (hdraw _ _)) (Nat.le_add_right 1 2)
  | naive placements direction =>
    rw [loopBody, length_lines_block]
    exact Nat.add_le_add (Nat.add_le_add (Nat.le_add_right 1 4) (hdraw _ _)) (Nat.le_add_right 2 1)
  | buffered placements direction interval =>
    rw [loopBody, List.append_assoc _ _ advance, length_lines_block]
    exact Nat.add_le_add (Nat.add_le_add (Nat.le_refl 5) (hplace _ (fun _ => rfl) _)) (Nat.le_refl 3)

/-! ## Items -/

theorem length_lines_connection_le (transmission : Transmission) :
    ((connection transmission).flatMap Item.lines).length ≤ 7 := by
  cases transmission with
  | i2c => exact Nat.le_refl 7
  | parallel => exact Nat.le_refl 7

theorem length_lines_scrollItems_le (direction : Direction) :
    ((scrollItems plan direction).flatMap Item.lines).length ≤ 40 := by
  unfold scrollItems
  cases plan.isPartial with
  | true => exact Nat.le_refl 40
  | false => exact Nat.le_add_right 13 27

theorem length_lines_build_le :
    (Program.build t plan o).lines.length ≤ 13 * t.size + 2 * plan.placements.length + 69 := by
  have hconnection := length_lines_connection_le o.transmission
  have hsetup := length_lines_setupBody_le 1 t plan o
  have hloop := length_lines_loopBody_le 1 plan
  rw [Program.build, Program.lines, List.flatMap_append, List.flatMap_append, List.length_append,
    List.length_append]
  refine Nat.le_trans (Nat.add_le_add_right (Nat.add_le_add hconnection (?_ : _ ≤ 40)) _) ?_
  · cases plan.direction? with
    | some direction => exact length_lines_scrollItems_le plan direction
    | none => exact Nat.zero_le 40
  · simp only [List.flatMap_cons, List.flatMap_nil, Item.lines, List.length_append,
      List.length_cons, List.length_nil, List.cons_append]
    omega

end Sketch

/-- No design has a sketch of a thousand lines. -/
theorem Compiled.length_codeLines_lt (d : Display) (o : Options) :
    (ofDesign d o).codeLines.length < 1000 := by
  have hsize := GlyphTable.size_ofDisplay_le d
  have hplacements := ((GlyphTable.ofDisplay d).place d).length_occupied_le
  have hlength := Sketch.length_lines_build_le (GlyphTable.ofDisplay d)
    (Plan.ofSlots ((GlyphTable.ofDisplay d).place d) o) o
  rw [Plan.placements_ofSlots, List.length_map] at hlength
  have hpositions : lcdLines * lcdColumns = 32 := rfl
  rw [codeLines, List.length_map]
  show ((Sketch.Program.build _ _ o).lines).length < 1000
  omega

end CharLcd
