import CharLcd.Compiled
import CharLcd.Proofs.Numbering
import Mathlib.Data.List.Forall2

/-!
# Exchanging bitmaps

Which number a character has, and so how the display is redrawn, depends on which cells are equal
and not on what they show. Bitmaps are exchanged by an injective function that keeps the blank one:
the numbers stay, the table has the new bitmaps in the places of the old ones, and of the sketch
only the byte literals in `setup` change.

- `eraseDups_map`, `idxOf?_map`: an injective function keeps repetitions and places.
- `GlyphTable.glyphs_ofDisplay_map`, `GlyphTable.place_map`: the table and the slots after the
  exchange.
- `Sketch.Line.SameButByte`, `Sketch.SameButSetup`: lines that differ in a byte literal, and
  sketches that differ in such lines of `setup`; `Sketch.sameButSetup_build` is about two tables
  with equally many characters.
- `Compiled.numbering_ignores_contents`: what all this says about a design.
-/

namespace CharLcd

/-! ## Lists -/

section

variable {α β : Type} [BEq α] [LawfulBEq α] [BEq β] [LawfulBEq β] {f : α → β}

/-- An injective function keeps repetitions, and makes no new ones. -/
theorem eraseDups_map (hf : Function.Injective f) (items : List α) :
    (items.map f).eraseDups = items.eraseDups.map f := by
  match items with
  | [] => rfl
  | a :: rest =>
    -- the recursion is that of `eraseDups`, on what is left after removing the repetitions of `a`
    have hrest := eraseDups_map hf (rest.filter fun b => !b == a)
    have hfilter : (rest.map f).filter (fun c => !c == f a) =
        (rest.filter fun b => !b == a).map f := by
      rw [List.filter_map]
      congr 2
      funext b
      exact congrArg (!·) hf.beq_eq
    rw [List.map_cons, List.eraseDups_cons, hfilter, hrest, List.eraseDups_cons, List.map_cons]
  termination_by items.length
  decreasing_by exact Nat.lt_succ_of_le (List.length_filter_le _ _)

/-- An injective function keeps the place of an item. -/
theorem idxOf?_map (hf : Function.Injective f) (items : List α) (a : α) :
    (items.map f).idxOf? (f a) = items.idxOf? a := by
  rw [List.idxOf?, List.idxOf?, List.findIdx?_map]
  congr 1
  funext b
  exact hf.beq_eq

end

/-- Parts that are related one by one make up related lists. -/
theorem forall₂_flatMap {α β γ δ : Type} {R : α → β → Prop} {S : γ → δ → Prop} {f : α → List γ}
    {g : β → List δ} {as : List α} {bs : List β} (h : List.Forall₂ R as bs)
    (hparts : ∀ a b, R a b → List.Forall₂ S (f a) (g b)) :
    List.Forall₂ S (as.flatMap f) (bs.flatMap g) := by
  induction h with
  | nil => exact .nil
  | cons hab _ ih =>
    rw [List.flatMap_cons, List.flatMap_cons]
    exact List.rel_append (hparts _ _ hab) ih

/-! ## Numbers -/

section

variable {f : Bitmap → Bitmap} (hf : Function.Injective f) (hblank : f Bitmap.blank = Bitmap.blank)

include hf hblank

/-- No other bitmap becomes the blank one. -/
theorem Bitmap.isBlank_exchange (b : Bitmap) : (f b).isBlank = b.isBlank := by
  rw [Bool.eq_iff_iff, isBlank_iff, isBlank_iff]
  constructor
  · intro h
    exact hf (h.trans hblank.symm)
  · rintro rfl
    exact hblank

namespace GlyphTable

/-- The table has the new bitmaps in the places of the old ones. -/
theorem glyphs_ofDisplay_map (d : Display) :
    (ofDisplay (d.map f)).glyphs = (ofDisplay d).glyphs.map f := by
  have hinked : ((d.map f).toList.filter fun b => !b.isBlank) =
      (d.toList.filter fun b => !b.isBlank).map f := by
    rw [Grid.toList_map, List.filter_map]
    congr 2
    funext b
    exact congrArg (!·) (Bitmap.isBlank_exchange hf hblank b)
  rw [ofDisplay, ofDisplay, Display.map_inked, Display.map_inked, hinked]
  exact eraseDups_map hf _

/-- Every slot has the number that it had. -/
theorem place_map (d : Display) :
    (ofDisplay (d.map f)).place (d.map f) = (ofDisplay d).place d := by
  apply Grid.ext_get
  intro line column
  rw [get_place, get_place, Grid.get_map, index?, index?, glyphs_ofDisplay_map hf hblank]
  exact idxOf?_map hf _ _

end GlyphTable

end

namespace GlyphTable

/-- Tables with equally many characters number them alike. -/
theorem forall₂_entries {t t' : GlyphTable} (h : t.size = t'.size) :
    List.Forall₂ (fun e e' => e.1 = e'.1) t.entries t'.entries := by
  rw [List.forall₂_iff_get]
  have hlength : t.entries.length = t'.entries.length := by
    simpa [entries, size] using h
  refine ⟨hlength, fun i hi hi' => ?_⟩
  simp [entries]

end GlyphTable

/-! ## Sketches -/

namespace Sketch

/-- Two lines are the same, or each is a byte literal, with the same indentation and both or
neither with a comma after it. -/
inductive Line.SameButByte (format : NumberFormat) : Line → Line → Prop
  | same (l : Line) : SameButByte format l l
  | lastByte (depth byte byte' : Nat) :
    SameButByte format ⟨depth, byteText format byte⟩ ⟨depth, byteText format byte'⟩
  | byte (depth byte byte' : Nat) :
    SameButByte format ⟨depth, byteText format byte ++ ","⟩ ⟨depth, byteText format byte' ++ ","⟩

/-- Two sketches are the same up to `setup` and from `loop` on, and in `setup` they differ in byte
literals only. -/
def SameButSetup (format : NumberFormat) (p p' : Program) : Prop :=
  ∃ before setup setup' loop : List Line,
    p.lines = before ++ ⟨0, "void setup() \x7b"⟩ :: setup ++ ⟨0, "void loop() \x7b"⟩ :: loop ∧
    p'.lines = before ++ ⟨0, "void setup() \x7b"⟩ :: setup' ++ ⟨0, "void loop() \x7b"⟩ :: loop ∧
    List.Forall₂ (Line.SameButByte format) setup setup'

variable (format : NumberFormat) (depth : Nat)

theorem Line.sameButByte_refl (lines : List Line) :
    List.Forall₂ (Line.SameButByte format) lines lines :=
  List.forall₂_same.mpr fun l _ => .same l

/-- The initial values of two arrays of the same length. -/
theorem sameButByte_valueLines {bytes bytes' : List Nat} (h : bytes.length = bytes'.length) :
    List.Forall₂ (Line.SameButByte format) (valueLines depth (bytes.map (.byte format)))
      (valueLines depth (bytes'.map (.byte format))) := by
  induction bytes generalizing bytes' with
  | nil =>
    obtain rfl := List.length_eq_zero_iff.mp h.symm
    exact .nil
  | cons byte rest ih =>
    obtain ⟨byte', rest', rfl⟩ := List.exists_cons_of_length_eq_add_one h.symm
    have hrest := ih (Nat.succ.inj h)
    -- only the last value has no comma after it
    cases rest with
    | nil =>
      obtain rfl := List.length_eq_zero_iff.mp (Nat.succ.inj h).symm
      exact .cons (.lastByte depth byte byte') .nil
    | cons second rest =>
      obtain ⟨second', rest', rfl⟩ := List.exists_cons_of_length_eq_add_one (Nat.succ.inj h).symm
      exact .cons (.byte depth byte byte') hrest

/-- Two characters with the same number are handed to the LCD alike. -/
theorem sameButByte_createChar (index : Nat) (b b' : Bitmap) :
    List.Forall₂ (Line.SameButByte format)
      ((createChar format index b).flatMap (Stmt.lines depth))
      ((createChar format index b').flatMap (Stmt.lines depth)) := by
  have hbytes : b.bytes.length = b'.bytes.length := by
    rw [Bitmap.length_bytes, Bitmap.length_bytes]
  have hvalues := sameButByte_valueLines format (depth + 1) hbytes
  simp only [createChar, run, List.flatMap_cons, List.flatMap_nil, Stmt.lines, List.length_map,
    hbytes, List.append_nil, List.cons_append, List.nil_append]
  exact .cons (.same _) (.cons (.same _) (.cons (.same _)
    (List.rel_append (List.rel_append hvalues (.cons (.same _) .nil)) (.cons (.same _) .nil))))

variable (plan : Plan) (o : Options)

/-- The bodies of `setup` for two tables with equally many characters. -/
theorem sameButByte_setupBody {t t' : GlyphTable} (h : t.size = t'.size) :
    List.Forall₂ (Line.SameButByte o.numberFormat) ((setupBody t plan o).lines depth)
      ((setupBody t' plan o).lines depth) := by
  have hchars : List.Forall₂ (Line.SameButByte o.numberFormat)
      ((t.entries.flatMap fun e => createChar o.numberFormat e.1 e.2).flatMap (Stmt.lines depth))
      ((t'.entries.flatMap fun e => createChar o.numberFormat e.1 e.2).flatMap
        (Stmt.lines depth)) := by
    rw [List.flatMap_assoc, List.flatMap_assoc]
    refine forall₂_flatMap (GlyphTable.forall₂_entries h) ?_
    rintro ⟨index, b⟩ ⟨index', b'⟩ (rfl : index = index')
    exact sameButByte_createChar o.numberFormat depth index b b'
  rw [setupBody, setupBody, Stmt.lines_block, Stmt.lines_block, List.flatMap_append,
    List.flatMap_append, List.flatMap_append, List.flatMap_append]
  exact List.rel_append (List.rel_append (Line.sameButByte_refl _ _) hchars)
    (Line.sameButByte_refl _ _)

/-- What stands before `setup`, and the loop, do not depend on the characters. -/
theorem exists_lines_build_eq : ∃ before, ∀ t : GlyphTable, (Program.build t plan o).lines =
    before ++ ⟨0, "void setup() \x7b"⟩ :: ((setupBody t plan o).lines 1 ++ [⟨0, "\x7d"⟩, ⟨0, ""⟩]) ++
      ⟨0, "void loop() \x7b"⟩ :: ((loopBody plan).lines 1 ++ [⟨0, "\x7d"⟩]) :=
  ⟨_, fun _ => Program.lines_setup_loop _ _ _⟩

/-- Tables with equally many characters have the same sketch for a plan, but for the byte literals
of the characters. -/
theorem sameButSetup_build {t t' : GlyphTable} (h : t.size = t'.size) :
    SameButSetup o.numberFormat (Program.build t plan o) (Program.build t' plan o) := by
  obtain ⟨before, hlines⟩ := exists_lines_build_eq plan o
  refine ⟨before, _, _, _, hlines t, hlines t', ?_⟩
  exact List.rel_append (sameButByte_setupBody 1 plan o h) (Line.sameButByte_refl _ _)

end Sketch

/-! ## Designs -/

/-- Cells that are equal stay equal and cells that are not equal do not become so when bitmaps are
exchanged. So every slot keeps its number and the characters their places in the table, the plan is
the same for all options, and of the sketch only byte literals in `setup` change. -/
theorem Compiled.numbering_ignores_contents {f : Bitmap → Bitmap} (hf : Function.Injective f)
    (hblank : f Bitmap.blank = Bitmap.blank) (d : Display) :
    let t := GlyphTable.ofDisplay d
    let t' := GlyphTable.ofDisplay (d.map f)
    t'.place (d.map f) = t.place d ∧ t'.glyphs = t.glyphs.map f ∧
      ∀ o, (ofDesign (d.map f) o).plan = (ofDesign d o).plan ∧
        Sketch.SameButSetup o.numberFormat (ofDesign d o).program (ofDesign (d.map f) o).program := by
  intro t t'
  have hslots : t'.place (d.map f) = t.place d := GlyphTable.place_map hf hblank d
  have hglyphs : t'.glyphs = t.glyphs.map f := GlyphTable.glyphs_ofDisplay_map hf hblank d
  have hsize : t.size = t'.size := by
    rw [GlyphTable.size, GlyphTable.size, hglyphs, List.length_map]
  refine ⟨hslots, hglyphs, fun o => ?_⟩
  have hplan : Plan.ofSlots (t'.place (d.map f)) o = Plan.ofSlots (t.place d) o := by rw [hslots]
  refine ⟨hplan, ?_⟩
  show Sketch.SameButSetup _ (Sketch.Program.build t (Plan.ofSlots (t.place d) o) o)
    (Sketch.Program.build t' (Plan.ofSlots (t'.place (d.map f)) o) o)
  rw [hplan]
  exact Sketch.sameButSetup_build _ o hsize

/-- The bitmap seen in a mirror. -/
def Bitmap.mirrored (b : Bitmap) : Bitmap := Grid.ofFn fun row column => b.get row column.rev

theorem Bitmap.mirrored_injective : Function.Injective mirrored := by
  have hback : Function.Involutive mirrored := by
    intro b
    apply Grid.ext_get
    intro row column
    rw [mirrored, Grid.get_ofFn, mirrored, Grid.get_ofFn, Fin.rev_rev]
  exact hback.injective

/-- Seen in a mirror, two characters in three cells keep their numbers. -/
theorem Compiled.numbering_ignores_contents_mirrored :
    let dot : Bitmap := Bitmap.blank.set 2 1 true
    let dash : Bitmap := Bitmap.blank.set 4 0 true
    let d : Display := ((Display.blank.set 0 3 dot).set 1 9 dot).set 0 5 dash
    let d' := d.map Bitmap.mirrored
    let o : Options := { scrolling := true, buffered := true }
    Function.Injective Bitmap.mirrored ∧ Bitmap.mirrored Bitmap.blank = Bitmap.blank ∧
      Bitmap.mirrored dot ≠ dot ∧ (GlyphTable.ofDisplay d).glyphs = [dot, dash] ∧
      (GlyphTable.ofDisplay d').glyphs = [Bitmap.mirrored dot, Bitmap.mirrored dash] ∧
      (ofDesign d' o).plan = .buffered [⟨0, 3, 0⟩, ⟨0, 5, 1⟩, ⟨1, 9, 0⟩] .left 300 ∧
      Sketch.SameButSetup .hex (ofDesign d o).program (ofDesign d' o).program := by
  intro dot dash d d' o
  have hblank : Bitmap.mirrored Bitmap.blank = Bitmap.blank := by decide +kernel
  have hcompiled : (GlyphTable.ofDisplay d).glyphs = [dot, dash] ∧
      (ofDesign d o).plan = .buffered [⟨0, 3, 0⟩, ⟨0, 5, 1⟩, ⟨1, 9, 0⟩] .left 300 := by
    decide +kernel
  obtain ⟨hglyphs, hplan⟩ := hcompiled
  obtain ⟨-, hmap, hdesign⟩ := numbering_ignores_contents Bitmap.mirrored_injective hblank d
  refine ⟨Bitmap.mirrored_injective, hblank, by decide +kernel, hglyphs, ?_,
    (hdesign o).1.trans hplan, (hdesign o).2⟩
  rw [hmap, hglyphs]
  rfl

end CharLcd
