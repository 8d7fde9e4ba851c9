import CharLcd.Proofs.Editor.Words
import CharLcd.Proofs.SlotLookup

/-!
# The panels do not collide

- `Layout.pixelAt?_eq_some_iff`, `Editor.printed_drawPixel`: a magnified pixel is found at the two
  positions that it is drawn on.
- `Layout.sketchArea`: the rectangle of the sketch; `Layout.contains_of_sketchArea` says that it is
  on the terminal, between the menu and the status line.
- `Layout.pairwise_apart`: no two panels share a position.
- `Editor.panels_apart`: clicks hit what is drawn, panels do not collide, and no number is too large
  for sixteen bits.
-/

namespace CharLcd

open LcdView Terminal

/-- Two rectangles share no position. -/
def Terminal.Area.Apart (a b : Area) : Prop := ∀ p, a.Contains p → ¬ b.Contains p

namespace Layout

/-- The rectangle of the sketch. Without room for the sketch it is empty. -/
def sketchArea (l : Layout) : Area := ⟨l.sketch, l.sketchWidth, l.sketchHeight⟩

section

variable {l : Layout} {p : Position}

/-- A pixel is found at two positions of its row. -/
theorem pixelAt?_eq_some_iff {row : Fin glyphRows} {column : Fin glyphColumns} :
    l.pixelAt? p = some (row, column) ↔
      p.row = l.pixels.row + 1 + row ∧
        l.pixels.column + 1 + column * pixelWidth ≤ p.column ∧
        p.column < l.pixels.column + 1 + column * pixelWidth + pixelWidth := by
  have hrow := row.isLt
  have hcolumn := column.isLt
  unfold pixelAt?
  dsimp only
  constructor
  · intro h
    split at h
    next => cases h
    next hcorner =>
      split at h
      next =>
        obtain ⟨rfl, rfl⟩ := Prod.mk.inj (Option.some.inj h)
        simp only [pixelWidth]
        omega
      next => cases h
  · rintro ⟨hp, hleft, hright⟩
    have hcorner : ¬ (p.column < l.pixels.column + 1 ∨ p.row < l.pixels.row + 1) := by omega
    have hplace : p.row - (l.pixels.row + 1) = row.val ∧
        (p.column - (l.pixels.column + 1)) / pixelWidth = column.val := by
      simp only [pixelWidth] at *
      omega
    rw [if_neg hcorner, dif_pos (by rw [hplace.1, hplace.2]; exact ⟨hrow, hcolumn⟩)]
    simp only [hplace]

/-- Pixels are found where the magnified cell stands. -/
theorem contains_of_pixelAt? {pixel : Fin glyphRows × Fin glyphColumns}
    (hp : l.pixelAt? p = some pixel) : l.pixelArea.Contains p := by
  have hrow := pixel.1.isLt
  have hcolumn := pixel.2.isLt
  obtain ⟨htop, hleft, hright⟩ := pixelAt?_eq_some_iff.mp hp
  simp only [Area.Contains, pixelArea, pixelBoxWidth, pixelBoxHeight, pixelWidth, glyphRows,
    glyphColumns] at hrow hcolumn hleft hright ⊢
  omega

end

section

variable (size : Size)

/-- In both of its places the sketch begins below the menu. It ends where the terminal does, above
the status line. -/
theorem contains_of_sketchArea {p : Position} (hp : (ofSize size).sketchArea.Contains p) :
    size.contains p = true ∧ (ofSize size).menuHeight ≤ p.row ∧
      p.row < (ofSize size).statusRow := by
  have htop : (ofSize size).sketch.row ≤ p.row := hp.1.1
  have hbottom : p.row < (ofSize size).sketch.row +
      (size.height - 1 - (ofSize size).sketch.row) := hp.1.2
  have hleft : (ofSize size).sketch.column ≤ p.column := hp.2.1
  have hright : p.column < (ofSize size).sketch.column +
      (size.width - (ofSize size).sketch.column) := hp.2.2
  have hmenu : 1 ≤ (ofSize size).sketch.row := by
    rcases sketch_ofSize size with ⟨hplace, -⟩ | ⟨hplace, -⟩
    · exact Nat.le_of_eq (congrArg Position.row hplace).symm
    · exact Nat.le_trans (by decide) (Nat.le_of_eq (congrArg Position.row hplace).symm)
  show size.contains p = true ∧ 1 ≤ p.row ∧ p.row < size.height - 1
  rw [Size.contains, Bool.and_eq_true, decide_eq_true_eq, decide_eq_true_eq]
  omega

/-- No two of the four panels below the menu share a position. -/
theorem pairwise_apart :
    let l := ofSize size
    [area l.lcd, l.pixelArea, l.optionsArea, l.sketchArea].Pairwise Area.Apart := by
  intro l
  have hlcdPixels : (area l.lcd).Apart l.pixelArea := fun p hp hpixel => by
    have := (contains_lcdArea hp).1
    have := (contains_pixelArea hpixel).1
    omega
  have hlcdOptions : (area l.lcd).Apart l.optionsArea := fun p hp hoption => by
    have := (contains_lcdArea hp).1
    have := (contains_optionsArea hoption).1
    omega
  have hpixelsOptions : l.pixelArea.Apart l.optionsArea := fun p hp hoption => by
    have := (contains_pixelArea hp).2
    have := (contains_optionsArea hoption).2
    omega
  have hlcdSketch : (area l.lcd).Apart l.sketchArea := fun p hp => not_contains_sketch (.inl hp)
  have hoptionsSketch : l.optionsArea.Apart l.sketchArea :=
    fun p hp => not_contains_sketch (.inr hp)
  -- both places of the sketch lie to the right of the magnified cell
  have hpixelsSketch : l.pixelArea.Apart l.sketchArea := fun p hp hsketch => by
    have hcell := (contains_pixelArea hp).2
    have hleft : l.sketch.column ≤ p.column := hsketch.2.1
    rcases sketch_ofSize size with ⟨hplace, -⟩ | ⟨hplace, -⟩
    all_goals
      rw [hplace] at hleft
      dsimp only at hleft
      omega
  refine .cons ?_ (.cons ?_ (.cons ?_ (List.pairwise_singleton _ _)))
  · exact List.forall_mem_cons.mpr ⟨hlcdPixels, List.forall_mem_cons.mpr
      ⟨hlcdOptions, List.forall_mem_singleton.mpr hlcdSketch⟩⟩
  · exact List.forall_mem_cons.mpr
      ⟨hpixelsOptions, List.forall_mem_singleton.mpr hpixelsSketch⟩
  · exact List.forall_mem_singleton.mpr hoptionsSketch

end

end Layout

namespace Editor

section

variable (s : Editor) (l : Layout)

/-- A magnified pixel takes two columns of one row. -/
theorem printed_drawPixel (row : Fin glyphRows) (column : Fin glyphColumns) (cursor : Position) :
    Screen.printed cursor (s.drawPixel l row column) =
      Screen.span ⟨l.pixels.column + 1 + column * pixelWidth, l.pixels.row + 1 + row⟩
        pixelWidth := by
  have htext (on : Bool) : (if on then "██" else "· ").length = pixelWidth := by
    cases on <;> rfl
  simp only [drawPixel, Screen.printed, htext, List.append_nil]

/-- Every pixel is drawn with the magnified cell. -/
theorem drawPixel_infix (row : Fin glyphRows) (column : Fin glyphColumns) :
    s.drawPixel l row column <:+: s.drawPixels l := by
  unfold drawPixels
  dsimp only
  rw [List.flatMap_def]
  refine .trans ?_ (List.infix_append _ _ _)
  refine .trans ?_ (List.infix_of_mem_flatten (List.mem_map_of_mem (List.mem_finRange row)))
  refine .trans ?_ (List.infix_append _ _ _)
  rw [List.flatMap_def]
  exact List.infix_of_mem_flatten (List.mem_map_of_mem (List.mem_finRange column))

/-- **The panels do not collide, and clicks hit what is drawn.** On every terminal a magnified pixel
is found at the two positions that it is drawn on, and no position belongs to a pixel and to a slot
of the LCD. The LCD, the magnified cell with its title and its count, the options and the sketch share
no position. The sketch stays on the terminal, between the menu and the status line. In sixteen bits
nothing overflows, neither where the panels are placed nor where they are drawn. -/
theorem panels_apart (s : Editor) (width height : UInt16) :
    let size : Size := ⟨width.toNat, height.toNat⟩
    let l := Layout.ofSize size
    (∀ row column cursor,
      s.drawPixel l row column <:+: s.drawPixels l ∧
      (∀ p, l.pixelAt? p = some (row, column) ↔
        p ∈ Screen.printed cursor (s.drawPixel l row column)) ∧
      Screen.printed cursor (s.drawPixel l row column) = [
        ⟨l.pixels.column + 1 + column * 2, l.pixels.row + 1 + row⟩,
        ⟨l.pixels.column + 1 + column * 2 + 1, l.pixels.row + 1 + row⟩]) ∧
    (∀ p, l.pixelAt? p = none ∨ slotAt? l.lcd p = none) ∧
    [area l.lcd, l.pixelArea, l.optionsArea, l.sketchArea].Pairwise Area.Apart ∧
    Screen.DrawsIn (area l.lcd) (s.drawLcd l) ∧ Screen.DrawsIn l.pixelArea (s.drawPixels l) ∧
    Screen.DrawsIn l.optionsArea (s.drawOptions l) ∧
    (∀ p, l.sketchArea.Contains p →
      size.contains p = true ∧ l.menuHeight ≤ p.row ∧ p.row < l.statusRow) ∧
    Layout.ofSize? size = some l ∧ s.drawScreen? size = some (s.drawScreen size) := by
  intro size l
  refine ⟨fun row column cursor => ⟨s.drawPixel_infix l row column, fun p => ?_, ?_⟩, fun p => ?_,
    Layout.pairwise_apart size, s.drawsIn_lcdArea l, s.drawsIn_drawPixels l (Nat.succ_pos _),
    s.drawsIn_drawOptions l, fun p => Layout.contains_of_sketchArea size, Layout.ofSize?_eq size,
    s.drawScreen?_eq height.toNat_lt_size⟩
  · rw [printed_drawPixel, Screen.mem_span]
    exact Layout.pixelAt?_eq_some_iff
  · exact s.printed_drawPixel l row column cursor
  · cases hpixel : l.pixelAt? p with
    | none => exact .inl rfl
    | some pixel =>
      refine .inr (slotAt?_eq_none_iff.mpr (.inl fun hlcd => ?_))
      have hcell := Layout.contains_pixelArea (Layout.contains_of_pixelAt? hpixel)
      have hbox := Layout.contains_lcdArea hlcd
      omega

/-- The sketch on a terminal that is too narrow for a place beside the LCD. -/
example : (Layout.ofSize ⟨110, 50⟩).sketchArea = ⟨⟨50, 13⟩, 60, 36⟩ := by rfl

end

end Editor

end CharLcd
