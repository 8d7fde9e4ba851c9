import CharLcd.Proofs.Sketch.Faithful

/-!
# What the text of a sketch tells

The text of a sketch gives back the design and those options that matter.

- `Program.headers`, `Program.body?`, `Program.constant?`: what a program defines;
  `headers_build` and its like are what a generated sketch defines.
- `generate_eq_iff`: two designs have the same sketch if and only if they agree
  in all that matters.
-/

namespace CharLcd

namespace Sketch

namespace Program

/-- The header files that a program includes. -/
def headers (p : Program) : List String :=
  p.filterMap fun i => match i with
    | .header file => some file
    | _ => none

/-- The body of the function with a name. -/
def body? (p : Program) (name : String) : Option Stmt :=
  p.findSome? fun i => match i with
    | .function _ x _ body => if x = name then some body else none
    | _ => none

/-- The value of the constant with a name. -/
def constant? (p : Program) (name : String) : Option Nat :=
  p.findSome? fun i => match i with
    | .constant _ x value => if x = name then some value else none
    | _ => none

/-! ## What a generated sketch defines -/

theorem headers_build (t : GlyphTable) (plan : Plan) (o : Options) :
    headers (build t plan o).plain = match o.transmission with
      | .i2c => ["Wire.h", "LiquidCrystal_I2C.h"]
      | .parallel => ["LiquidCrystal.h"] := by
  obtain ⟨transmission⟩ := o
  cases transmission <;> cases plan <;> rfl

theorem scrollColumn_build (t : GlyphTable) (plan : Plan) (o : Options) :
    body? (build t plan o).plain "scrollColumn" = plan.direction?.map fun direction =>
      .block [
        .declare "int" "position" (.binary .mod (.parens (shift direction)) (.name "LCD_COLUMNS")),
        .ifThen (.binary .lt (.name "position") (.number 0)) (.block [
          .increase "position" (.name "LCD_COLUMNS")]),
        .ret (.name "position")] := by
  obtain ⟨transmission⟩ := o
  cases transmission <;> cases plan <;> rfl

theorem interval_build (t : GlyphTable) (plan : Plan) (o : Options) :
    constant? (build t plan o).plain "SCROLL_DELAY_MS" =
      if plan.isAnimated then some plan.intervalMs.toNat else none := by
  obtain ⟨transmission⟩ := o
  cases transmission <;> cases plan <;> rfl

theorem blankSlot_build (t : GlyphTable) (plan : Plan) (o : Options) :
    constant? (build t plan o).plain "BLANK_SLOT" = if plan.isPartial then some 255 else none := by
  obtain ⟨transmission⟩ := o
  cases transmission <;> cases plan <;> rfl

theorem setup_build (t : GlyphTable) (plan : Plan) (o : Options) :
    body? (build t plan o).plain "setup" = some (.block (setupBody t plan o).plain) := by
  obtain ⟨transmission⟩ := o
  cases transmission <;> cases plan <;> rfl

end Program

/-! ## The spelling of row bytes -/

/-- Blocks are the same only if their statements are. -/
theorem Stmt.block_injective {body body' : List Stmt} (h : Stmt.block body = .block body') :
    body = body' := by
  induction body generalizing body' with
  | nil =>
    cases body' with
    | nil => rfl
    | cons s rest => cases h
  | cons s rest ih =>
    cases body' with
    | nil => cases h
    | cons s' rest' =>
      injection h with hs hrest
      rw [hs, ih hrest]

/-- The values of the first table among some statements. -/
def firstTable? (stmts : List Stmt) : Option (List Expr) :=
  stmts.findSome? fun s => match s with
    | .table _ values => some values
    | _ => none

/-- The first table in `setup` holds the first character. -/
theorem firstTable?_setupBody (t : GlyphTable) (plan : Plan) (o : Options) :
    firstTable? (setupBody t plan o).plain =
      t.entries.head?.map fun e => e.2.bytes.map (.byte o.numberFormat) := by
  have hpower : firstTable? ((powerOn o.transmission).flatMap Stmt.plain) = none := by
    cases o.transmission <;> rfl
  have hclear : firstTable? ((if plan.isPartial then
      [.blank, clearFrame "previousFrame", run "lcd.clear" []] else []).flatMap Stmt.plain) =
      none := by
    cases plan.isPartial <;> rfl
  rw [firstTable?] at hpower hclear ⊢
  rw [setupBody, Stmt.plain_block, List.flatMap_append, List.flatMap_append, List.findSome?_append,
    List.findSome?_append, hpower, hclear, Option.none_or, Option.or_none]
  cases t.entries with
  | nil => rfl
  | cons e rest => rfl

/-! ## The options that make a plan -/

end Sketch

namespace Plan

theorem direction?_ofSlots (slots : SlotMap) (o : Options) :
    (ofSlots slots o).direction? = if o.scrolling then some o.direction else none := by
  rw [ofSlots]
  cases o.scrolling <;> cases o.buffered <;> rfl

theorem isPartial_ofSlots (slots : SlotMap) (o : Options) :
    (ofSlots slots o).isPartial = (o.scrolling && o.buffered) := by
  rw [ofSlots]
  cases o.scrolling <;> cases o.buffered <;> rfl

theorem intervalMs_ofSlots (slots : SlotMap) {o : Options} (hscrolling : o.scrolling = true)
    (hbuffered : o.buffered = true) : (ofSlots slots o).intervalMs = max o.intervalMs 1 := by
  rw [ofSlots, hscrolling, hbuffered]
  rfl

end Plan

/-! ## What the text tells -/

namespace Sketch

open Compiled

variable {d d₁ d₂ : Display} {o₁ o₂ : Options}

/-- The same text is read as the same sketch. -/
theorem plain_eq_of_generate_eq (h : generate d₁ o₁ = generate d₂ o₂) :
    (ofDesign d₁ o₁).program.plain = (ofDesign d₂ o₂).program.plain := by
  have hread := ofText?_generate d₁ o₁
  rw [h, ofText?_generate] at hread
  exact (Option.some.inj hread).symm

/-- The LCD shows the design after one round, so the text tells the design. -/
theorem display_eq_of_generate_eq (h : generate d₁ o₁ = generate d₂ o₂) : d₁ = d₂ := by
  obtain ⟨lcd₁, hlcd₁, hshows₁⟩ := lcd_generate d₁ o₁ 1
  obtain ⟨lcd₂, hlcd₂, hshows₂⟩ := lcd_generate d₂ o₂ 1
  rw [h, hlcd₂] at hlcd₁
  obtain rfl := Option.some.inj hlcd₁
  apply Grid.ext_get
  intro line column
  apply Grid.ext_get
  intro row pixel
  have hlit₁ := Lcd.isLit_of_shows hshows₁ line column row pixel
  have hlit₂ := Lcd.isLit_of_shows hshows₂ line column row pixel
  rw [Options.source_zero] at hlit₁ hlit₂
  exact hlit₁.symm.trans hlit₂

theorem transmission_eq_of_generate_eq (h : generate d₁ o₁ = generate d₂ o₂) :
    o₁.transmission = o₂.transmission := by
  have hheaders := congrArg Program.headers (plain_eq_of_generate_eq h)
  have h₁ := Program.headers_build (GlyphTable.ofDisplay d₁) (ofDesign d₁ o₁).plan o₁
  have h₂ := Program.headers_build (GlyphTable.ofDisplay d₂) (ofDesign d₂ o₂).plan o₂
  have hlists := (h₁.symm.trans hheaders).trans h₂
  cases ht₁ : o₁.transmission <;> cases ht₂ : o₂.transmission <;> rw [ht₁, ht₂] at hlists <;>
    first | rfl | exact absurd hlists (by decide)

/-- The function that scrolls tells the direction. -/
theorem shift_injective {a b : Direction} (h : shift a = shift b) : a = b := by
  cases a <;> cases b <;> first | rfl | exact absurd h (by decide)

theorem direction?_eq_of_generate_eq (h : generate d₁ o₁ = generate d₂ o₂) :
    (ofDesign d₁ o₁).plan.direction? = (ofDesign d₂ o₂).plan.direction? := by
  have hbody := congrArg (Program.body? · "scrollColumn") (plain_eq_of_generate_eq h)
  have h₁ := Program.scrollColumn_build (GlyphTable.ofDisplay d₁) (ofDesign d₁ o₁).plan o₁
  have h₂ := Program.scrollColumn_build (GlyphTable.ofDisplay d₂) (ofDesign d₂ o₂).plan o₂
  -- `scrollColumn` is there exactly if the plan scrolls, and its first line tells in which
  -- direction
  have hmaps := (h₁.symm.trans hbody).trans h₂
  refine Option.map_injective ?_ hmaps
  intro a b hab
  have hfirst := (List.cons.inj (Stmt.block_injective hab)).1
  injection hfirst with _ _ hvalue
  injection hvalue with _ hparens _
  injection hparens with hshift
  exact shift_injective hshift

theorem isPartial_eq_of_generate_eq (h : generate d₁ o₁ = generate d₂ o₂) :
    (ofDesign d₁ o₁).plan.isPartial = (ofDesign d₂ o₂).plan.isPartial := by
  have hblank := congrArg (Program.constant? · "BLANK_SLOT") (plain_eq_of_generate_eq h)
  have h₁ := Program.blankSlot_build (GlyphTable.ofDisplay d₁) (ofDesign d₁ o₁).plan o₁
  have h₂ := Program.blankSlot_build (GlyphTable.ofDisplay d₂) (ofDesign d₂ o₂).plan o₂
  -- the constant is there exactly if the plan is partial
  have hvalues := (h₁.symm.trans hblank).trans h₂
  cases hp₁ : (ofDesign d₁ o₁).plan.isPartial <;> cases hp₂ : (ofDesign d₂ o₂).plan.isPartial <;>
    rw [hp₁, hp₂] at hvalues <;> first | rfl | exact absurd hvalues (by decide)

theorem interval_eq_of_generate_eq (h : generate d₁ o₁ = generate d₂ o₂)
    (hanimated : (ofDesign d₁ o₁).plan.isAnimated = true) :
    (ofDesign d₁ o₁).plan.intervalMs = (ofDesign d₂ o₂).plan.intervalMs := by
  have hanimated' : (ofDesign d₂ o₂).plan.isAnimated = true := by
    rw [Plan.isAnimated, ← direction?_eq_of_generate_eq h]
    exact hanimated
  have hdelay := congrArg (Program.constant? · "SCROLL_DELAY_MS") (plain_eq_of_generate_eq h)
  have h₁ := Program.interval_build (GlyphTable.ofDisplay d₁) (ofDesign d₁ o₁).plan o₁
  have h₂ := Program.interval_build (GlyphTable.ofDisplay d₂) (ofDesign d₂ o₂).plan o₂
  have hvalues := (h₁.symm.trans hdelay).trans h₂
  rw [if_pos hanimated, if_pos hanimated'] at hvalues
  exact UInt32.toNat.inj (Option.some.inj hvalues)

/-- The row bytes of the first character tell how bytes are spelled, if there is a character. -/
theorem numberFormat_eq_of_generate_eq (h : generate d₁ o₁ = generate d₂ o₂)
    (hblank : d₁ ≠ Display.blank) : o₁.numberFormat = o₂.numberFormat := by
  obtain rfl := display_eq_of_generate_eq h
  have hsetup := congrArg (Program.body? · "setup") (plain_eq_of_generate_eq h)
  have h₁ := Program.setup_build (GlyphTable.ofDisplay d₁) (ofDesign d₁ o₁).plan o₁
  have h₂ := Program.setup_build (GlyphTable.ofDisplay d₁) (ofDesign d₁ o₂).plan o₂
  have hbodies := Stmt.block_injective (Option.some.inj ((h₁.symm.trans hsetup).trans h₂))
  -- the two bodies differ at most in how the bytes of their tables are spelled
  have htables := congrArg firstTable? hbodies
  rw [firstTable?_setupBody, firstTable?_setupBody] at htables
  cases hentries : (GlyphTable.ofDisplay d₁).entries with
  | nil => exact absurd (GlyphTable.entries_ofDisplay_eq_nil_iff.mp hentries) hblank
  | cons e rest =>
    rw [hentries] at htables
    have hbytes : e.2.bytes.map (Expr.byte o₁.numberFormat) =
        e.2.bytes.map (.byte o₂.numberFormat) := Option.some.inj htables
    cases hlist : e.2.bytes with
    | nil =>
      have hlength := e.2.length_bytes
      rw [hlist] at hlength
      cases hlength
    | cons byte bytes =>
      rw [hlist] at hbytes
      have hfirst := (List.cons.inj hbytes).1
      injection hfirst

/-! ## What the text depends on -/

/-- The plan depends only on the options of scrolling. -/
theorem plan_congr (d : Display) (hscrolling : o₁.scrolling = o₂.scrolling)
    (hanimated : o₁.scrolling = true →
      o₁.direction = o₂.direction ∧ o₁.buffered = o₂.buffered)
    (hinterval : o₁.scrolling = true → o₁.buffered = true →
      max o₁.intervalMs 1 = max o₂.intervalMs 1) :
    (ofDesign d o₁).plan = (ofDesign d o₂).plan := by
  show Plan.ofSlots _ o₁ = Plan.ofSlots _ o₂
  rw [Plan.ofSlots, Plan.ofSlots, ← hscrolling]
  by_cases hon : o₁.scrolling = true
  · obtain ⟨hdirection, hbuffered⟩ := hanimated hon
    rw [if_pos hon, if_pos hon, ← hdirection, ← hbuffered]
    by_cases hpartial : o₁.buffered = true
    · rw [if_pos hpartial, if_pos hpartial, hinterval hon hpartial]
    · rw [if_neg hpartial, if_neg hpartial]
  · rw [if_neg hon, if_neg hon]

/-- The sketch depends only on the wiring besides, and on the spelling of bytes if there are any. -/
theorem build_congr {t : GlyphTable} (plan : Plan) (htransmission : o₁.transmission = o₂.transmission)
    (hformat : o₁.numberFormat = o₂.numberFormat ∨ t.entries = []) :
    Program.build t plan o₁ = Program.build t plan o₂ := by
  have hchars : (t.entries.flatMap fun e => createChar o₁.numberFormat e.1 e.2) =
      t.entries.flatMap fun e => createChar o₂.numberFormat e.1 e.2 := by
    rcases hformat with hformat | hnil
    · rw [hformat]
    · rw [hnil, List.flatMap_nil, List.flatMap_nil]
  rw [Program.build, Program.build, setupBody, setupBody, htransmission, hchars]

/-- Two designs have the same sketch if and only if they have the same display, the same wiring, the
same spelling of row bytes unless there are none, and scroll in the same way: the direction and the
way of redrawing matter only where the picture scrolls, and the interval, which is at least one
millisecond, only where it scrolls with a buffer. -/
theorem generate_eq_iff (d₁ d₂ : Display) (o₁ o₂ : Options) :
    generate d₁ o₁ = generate d₂ o₂ ↔
      d₁ = d₂ ∧ o₁.transmission = o₂.transmission ∧
      (o₁.numberFormat = o₂.numberFormat ∨ d₁ = Display.blank) ∧
      o₁.scrolling = o₂.scrolling ∧
      (o₁.scrolling = true → o₁.direction = o₂.direction ∧ o₁.buffered = o₂.buffered) ∧
      (o₁.scrolling = true → o₁.buffered = true →
        max o₁.intervalMs 1 = max o₂.intervalMs 1) := by
  constructor
  · intro h
    -- a plan has a direction exactly if the picture scrolls
    have hscrolling : o₁.scrolling = o₂.scrolling := by
      have hdirection := congrArg Option.isSome (direction?_eq_of_generate_eq h)
      have h₁ := Plan.isAnimated_ofSlots ((GlyphTable.ofDisplay d₁).place d₁) o₁
      have h₂ := Plan.isAnimated_ofSlots ((GlyphTable.ofDisplay d₂).place d₂) o₂
      exact (h₁.symm.trans hdirection).trans h₂
    have hpartial : (o₁.scrolling && o₁.buffered) = (o₂.scrolling && o₂.buffered) := by
      rw [← Plan.isPartial_ofSlots, ← Plan.isPartial_ofSlots]
      exact isPartial_eq_of_generate_eq h
    have hbuffered (hon : o₁.scrolling = true) : o₁.buffered = o₂.buffered := by
      rw [← hscrolling, hon, Bool.true_and, Bool.true_and] at hpartial
      exact hpartial
    refine ⟨display_eq_of_generate_eq h, transmission_eq_of_generate_eq h, ?_, hscrolling, ?_, ?_⟩
    · by_cases hblank : d₁ = Display.blank
      · exact .inr hblank
      · exact .inl (numberFormat_eq_of_generate_eq h hblank)
    · intro hon
      refine ⟨?_, hbuffered hon⟩
      have hdirection : (Plan.ofSlots _ o₁).direction? = (Plan.ofSlots _ o₂).direction? :=
        direction?_eq_of_generate_eq h
      rw [Plan.direction?_ofSlots, Plan.direction?_ofSlots, if_pos hon,
        if_pos (hscrolling.symm.trans hon)] at hdirection
      exact Option.some.inj hdirection
    · intro hon hbuf
      have hinterval : (Plan.ofSlots _ o₁).intervalMs = (Plan.ofSlots _ o₂).intervalMs :=
        interval_eq_of_generate_eq h ((Plan.isAnimated_ofSlots _ o₁).trans hon)
      rw [Plan.intervalMs_ofSlots _ hon hbuf, Plan.intervalMs_ofSlots _
        (hscrolling.symm.trans hon) ((hbuffered hon).symm.trans hbuf)] at hinterval
      exact hinterval
  · rintro ⟨rfl, htransmission, hformat, hscrolling, hanimated, hinterval⟩
    have hplan := plan_congr d₁ hscrolling hanimated hinterval
    have hentries : o₁.numberFormat = o₂.numberFormat ∨ (GlyphTable.ofDisplay d₁).entries = [] :=
      hformat.imp_right GlyphTable.entries_ofDisplay_eq_nil_iff.mpr
    show (Program.build _ (ofDesign d₁ o₁).plan o₁).text =
      (Program.build _ (ofDesign d₁ o₂).plan o₂).text
    rw [hplan, build_congr _ htransmission hentries]

end Sketch

end CharLcd
