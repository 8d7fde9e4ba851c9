import CharLcd.Proofs.Sketch.Execution
import CharLcd.Proofs.Sketch.Nesting
import CharLcd.Proofs.Sketch.Readable

/-!
# The text of a sketch is well nested

A line that moves the depth (`Line.Moves`) is printed with as many braces as it moves the depth by
and with two spaces for each block it stands in. So the depth that the printer carries along can be
counted in the text.

- `braces`: how many braces are open after a text.
- `Tidy`: a line is printable and indented for the braces that are open before it.
- `Line.Moves.tidy`, `Line.Moves.braces_render`: what one line does. `Nested.tidy`,
  `Nested.braces_printed`: what many lines do.
- `Stmt.Tame`, `Item.Tame`: the prose of a phrase has no braces, and none of its lines looks like the
  beginning of `setup` or of `loop`. `tame_preamble`, `tame_setupBody`, `tame_loopBody`: all parts of
  a sketch are tame but those two beginnings.
- `Program.well_nested`: the text of every sketch is well nested.
-/

namespace CharLcd.Sketch

/-! ## Braces -/

/-- How many more braces a text opens than it closes. -/
def braces (s : List Char) : Int := s.count '\x7b' - s.count '\x7d'

theorem braces_append (s t : List Char) : braces (s ++ t) = braces s + braces t := by
  simp only [braces, List.count_append, Int.natCast_add]
  omega

theorem IsText.braces_eq {s : String} (h : IsText s) : braces s.toList = 0 := by
  have hall := List.all_eq_true.mp h
  have hopen : s.toList.count '\x7b' = 0 :=
    List.count_eq_zero.mpr fun hc => absurd (hall _ hc) (by decide)
  have hclose : s.toList.count '\x7d' = 0 :=
    List.count_eq_zero.mpr fun hc => absurd (hall _ hc) (by decide)
  rw [braces, hopen, hclose]
  rfl

/-! ## Lines -/

/-- A line is printable and does not end in a space. If it is not empty, it begins with two spaces
for every brace that is open before it, but for one that it begins with closing. -/
structure Tidy (depth : Int) (line : List Char) : Prop where
  printable : ∀ c ∈ line, ' ' ≤ c ∧ c ≤ '~'
  ends : line.getLast? ≠ some ' '
  indented : line ≠ [] → ((line.takeWhile (· == ' ')).length : Int) =
    2 * (depth - if (line.dropWhile (· == ' ')).head? = some '\x7d' then 1 else 0)

theorem tidy_nil (depth : Int) : Tidy depth [] := ⟨nofun, nofun, absurd rfl⟩

/-- A text with spaces before it. -/
theorem tidy_indented {n : Nat} {text : List Char} {depth : Int}
    (hprintable : ∀ c ∈ text, ' ' ≤ c ∧ c ≤ '~') (hbegins : text.head?.any (· != ' ') = true)
    (hends : text.getLast?.any (· != ' ') = true)
    (hdepth : (n : Int) = depth - if text.head? = some '\x7d' then 1 else 0) :
    Tidy depth (List.replicate (2 * n) ' ' ++ text) := by
  have hspaces : ∀ c ∈ List.replicate (2 * n) ' ', c = ' ' := fun c hc => List.eq_of_mem_replicate hc
  have hskipped : ∀ c ∈ List.replicate (2 * n) ' ', (c == ' ') = true :=
    fun c hc => beq_iff_eq.mpr (hspaces c hc)
  refine ⟨?_, fun hlast => ?_, fun _ => ?_⟩
  · refine List.forall_mem_append.mpr ⟨fun c hc => ?_, hprintable⟩
    rw [hspaces c hc]
    decide
  · rw [List.getLast?_append] at hlast
    cases hend : text.getLast? with
    | none => rw [hend] at hends; cases hends
    | some c =>
      rw [hend] at hlast hends
      obtain rfl := Option.some.inj hlast
      cases hends
  · have htake : text.takeWhile (· == ' ') = [] ∧ text.dropWhile (· == ' ') = text := by
      cases text with
      | nil => exact ⟨rfl, rfl⟩
      | cons c rest =>
        have hc : ¬ (c == ' ') = true := by simpa using hbegins
        exact ⟨List.takeWhile_cons_of_neg hc, List.dropWhile_cons_of_neg hc⟩
    rw [List.takeWhile_append_of_pos hskipped, List.dropWhile_append_of_pos hskipped, htake.1,
      htake.2, List.append_nil, List.length_replicate, ← hdepth, Int.natCast_mul]
    rfl

theorem IsText.printable {s : String} (h : IsText s) : ∀ c ∈ s.toList, ' ' ≤ c ∧ c ≤ '~' := by
  intro c hc
  have hchar := List.all_eq_true.mp h c hc
  simp only [isTextChar, Bool.and_eq_true, decide_eq_true_eq] at hchar
  exact hchar.1.1

theorem IsStart.head?_ne {s : String} (h : IsStart s) : s.toList.head? ≠ some '\x7d' := fun hhead =>
  absurd (List.all_eq_true.mp h.text _ (List.mem_of_head? hhead)) (by decide)

theorem IsStart.ne_empty {s : String} (h : IsStart s) : s ≠ "" := by
  rintro rfl
  exact absurd h.begins (by decide)

/-- The indentation of a line, and its text. -/
theorem toList_render {depth : Nat} {text : String} (h : text ≠ "") :
    (Line.render ⟨depth, text⟩).toList = List.replicate (2 * depth) ' ' ++ text.toList := by
  have hempty : ¬ text.isEmpty = true := mt String.isEmpty_iff.mp h
  rw [Line.render, if_neg hempty, String.toList_append, String.toList_ofList]

theorem braces_toList_render (l : Line) : braces l.render.toList = braces l.text.toList := by
  have hspaces (n : Nat) : braces (List.replicate n ' ') = 0 := by
    simp [braces, List.count_replicate]
  by_cases hempty : l.text = ""
  · rw [Line.render, if_pos (String.isEmpty_iff.mpr hempty), hempty]
  · rw [toList_render hempty, braces_append, hspaces, Int.zero_add]

/-- The ends of the lines that open a block. -/
theorem opening_marks : ∀ mark ∈ [") \x7b", "++) \x7b", "] = \x7b"],
    mark.toList.all (fun c => ' ' ≤ c && c ≤ '~') = true ∧ mark.toList.getLast? = some '\x7b' ∧
      braces mark.toList = 1 := by
  decide

/-- The lines that begin with a closing brace. -/
theorem closing_lines : ∀ text ∈ ["\x7d", "\x7d;", "\x7d else \x7b"],
    text.toList.all (fun c => ' ' ≤ c && c ≤ '~') = true ∧ text.toList.head? = some '\x7d' ∧
      text.toList.getLast?.any (· != ' ') = true := by
  decide

section

variable {depth next : Nat} {l : Line}

theorem printable_of_all {text : List Char}
    (h : text.all (fun c => ' ' ≤ c && c ≤ '~') = true) : ∀ c ∈ text, ' ' ≤ c ∧ c ≤ '~' := by
  simpa only [List.all_eq_true, Bool.and_eq_true, decide_eq_true_eq] using h

/-- A line that begins with a closing brace stands one block higher than the line before it. -/
theorem tidy_closing {text : String} (h : text ∈ ["\x7d", "\x7d;", "\x7d else \x7b"]) :
    Tidy (depth + 1 : Nat) (Line.render ⟨depth, text⟩).toList := by
  obtain ⟨hall, hhead, hends⟩ := closing_lines text h
  have hne : text ≠ "" := by
    rintro rfl
    cases hhead
  rw [toList_render hne]
  refine tidy_indented (printable_of_all hall) ?_ hends ?_
  · rw [hhead]
    rfl
  · rw [if_pos hhead]
    omega

/-- A line that moves the depth is tidy. -/
theorem Line.Moves.tidy (h : l.Moves depth next) : Tidy depth l.render.toList := by
  cases h with
  | blank => exact tidy_nil depth
  | phrase h =>
    rw [toList_render h.ne_empty]
    refine tidy_indented h.text.printable h.begins h.ends ?_
    rw [if_neg h.head?_ne, Int.sub_zero]
  | opens h hmark =>
    obtain ⟨hall, hlast, -⟩ := opening_marks _ hmark
    rw [toList_render fun hempty => h.ne_empty (String.append_eq_empty_iff.mp hempty).1]
    refine tidy_indented ?_ ?_ ?_ ?_
    · rw [String.toList_append]
      exact List.forall_mem_append.mpr ⟨h.text.printable, printable_of_all hall⟩
    · rw [h.head?_append]
      exact h.begins
    · rw [String.toList_append, List.getLast?_append, hlast]
      rfl
    · rw [h.head?_append, if_neg h.head?_ne, Int.sub_zero]
  | turns => exact tidy_closing (by decide)
  | closes hmark => exact tidy_closing (List.mem_append_left ["\x7d else \x7b"] hmark)

/-- A line opens as many braces as it moves the depth by. -/
theorem Line.Moves.braces_render (h : l.Moves depth next) :
    depth + braces l.render.toList = next := by
  rw [braces_toList_render]
  cases h with
  | blank => exact Int.add_zero _
  | phrase h => rw [h.text.braces_eq, Int.add_zero]
  | opens h hmark =>
    rw [String.toList_append, braces_append, h.text.braces_eq, (opening_marks _ hmark).2.2]
    rfl
  | turns =>
    have hturn : braces "\x7d else \x7b".toList = 0 := by decide
    rw [hturn, Int.add_zero]
  | closes hmark =>
    have hclosing : ∀ mark ∈ ["\x7d", "\x7d;"], braces mark.toList = -1 := by decide
    rw [hclosing _ hmark]
    omega

/-! ## Many lines -/

/-- The lines of a sketch as they are printed. -/
def printed (lines : List Line) : List (List Char) := lines.map fun l => l.render.toList

variable {lines : List Line}

/-- After many lines, as many braces are open as the lines move the depth to. -/
theorem Nested.braces_printed (h : Nested depth lines next) :
    depth + braces (printed lines).flatten = next := by
  induction h with
  | nil => exact Int.add_zero _
  | cons hline _ ih =>
    rw [printed, List.map_cons, List.flatten_cons, braces_append, ← Int.add_assoc,
      hline.braces_render]
    exact ih

/-- Every line is tidy, and no line closes more braces than are open. -/
theorem Nested.tidy (h : Nested depth lines next) {before after : List (List Char)}
    {line : List Char} (hlines : printed lines = before ++ line :: after) :
    Tidy (depth + braces before.flatten) line ∧ 0 ≤ depth + braces (before ++ [line]).flatten := by
  -- the depth at the beginning takes the place of the lines that came before
  induction h generalizing before with
  | nil => exact absurd hlines (List.append_ne_nil_of_right_ne_nil _ (List.cons_ne_nil _ _)).symm
  | @cons depth between _ l rest hline _ ih =>
    have hmoves := hline.braces_render
    cases before with
    | nil =>
      obtain ⟨rfl, -⟩ := List.cons.inj hlines
      rw [List.flatten_nil, List.nil_append, List.flatten_singleton, hmoves]
      exact ⟨by simpa [braces] using hline.tidy, Int.natCast_nonneg between⟩
    | cons first before =>
      obtain ⟨rfl, hrest⟩ := List.cons.inj hlines
      rw [List.cons_append, List.flatten_cons, List.flatten_cons, braces_append, braces_append,
        ← Int.add_assoc, ← Int.add_assoc, hmoves]
      exact ih hrest

end

/-- The text of a sketch is made of its lines. -/
theorem Program.toList_text (p : Program) :
    p.text.toList = (printed p.lines).flatMap (· ++ ['\n']) := by
  rw [text, printed]
  induction p.lines with
  | nil => rfl
  | cons l rest ih =>
    rw [List.map_cons, List.map_cons, String.join_cons, String.toList_append, ih,
      List.flatMap_cons, String.toList_append]
    rfl

/-! ## Parts of a sketch -/

/-- A line that is no beginning of `setup` or `loop`. -/
def IsInner (line : List Char) : Prop :=
  ¬ "void setup()".toList <:+: line ∧ ¬ "void loop()".toList <:+: line

instance (line : List Char) : Decidable (IsInner line) := inferInstanceAs (Decidable (_ ∧ _))

/-- Spaces before a text do not make it a beginning. -/
theorem isInner_render {l : Line} (h : IsInner l.text.toList) : IsInner l.render.toList := by
  have hspaces {c : Char} {rest : List Char} (hc : c ≠ ' ') (n : Nat)
      (hin : c :: rest <:+: List.replicate n ' ' ++ l.text.toList) :
      c :: rest <:+: l.text.toList := by
    induction n with
    | zero => exact hin
    | succ n ih =>
      rcases List.infix_cons_iff.mp hin with hhead | htail
      · exact absurd (List.cons_prefix_cons.mp hhead).1 hc
      · exact ih htail
  by_cases hempty : l.text = ""
  · rw [Line.render, if_pos (String.isEmpty_iff.mpr hempty)]
    decide +kernel
  · rw [toList_render hempty]
    exact ⟨fun hin => h.1 (hspaces (by decide) _ hin), fun hin => h.2 (hspaces (by decide) _ hin)⟩

/-- A statement whose prose has no braces, and which does not look like `setup` or `loop`. -/
def Stmt.Tame (s : Stmt) : Prop :=
  (∀ x ∈ s.prose, IsPhrase x) ∧ ∀ l ∈ s.lines 1, IsInner l.text.toList

instance (s : Stmt) : Decidable s.Tame := inferInstanceAs (Decidable (_ ∧ _))

/-- An item whose prose has no braces, and which does not look like `setup` or `loop`. -/
def Item.Tame (i : Item) : Prop :=
  (∀ x ∈ i.prose, IsPhrase x) ∧ ∀ l ∈ i.lines, IsInner l.text.toList

instance (i : Item) : Decidable i.Tame := inferInstanceAs (Decidable (_ ∧ _))

theorem Stmt.prose_block (body : List Stmt) : (Stmt.block body).prose = body.flatMap Stmt.prose := by
  induction body with
  | nil => rfl
  | cons s body ih => rw [Stmt.block_cons, Stmt.prose, ih, List.flatMap_cons]

theorem Stmt.tame_block {body : List Stmt} : (Stmt.block body).Tame ↔ ∀ s ∈ body, s.Tame := by
  simp only [Tame, prose_block, lines_block, List.mem_flatMap]
  constructor
  · rintro ⟨hprose, hlines⟩ s hs
    exact ⟨fun x hx => hprose x ⟨s, hs, hx⟩, fun l hl => hlines l ⟨s, hs, hl⟩⟩
  · intro h
    exact ⟨fun x ⟨s, hs, hx⟩ => (h s hs).1 x hx, fun l ⟨s, hs, hl⟩ => (h s hs).2 l hl⟩

/-! ### Lines with numbers on them -/

section

variable {c : Char} (hc : c = 'v' ∨ c = '(')

theorem not_mem_append {s t : String} (hs : c ∉ s.toList) (ht : c ∉ t.toList) :
    c ∉ (s ++ t).toList := by
  rw [String.toList_append, List.mem_append]
  exact not_or.mpr ⟨hs, ht⟩

include hc

/-- A text without one of two characters of `void setup()` and `void loop()` is inner. -/
theorem isInner_of_not_mem {text : List Char} (h : c ∉ text) : IsInner text := by
  have hheads : c ∈ "void setup()".toList ∧ c ∈ "void loop()".toList := by
    rcases hc with rfl | rfl <;> decide
  exact ⟨fun hin => h (hin.subset hheads.1), fun hin => h (hin.subset hheads.2)⟩

theorem not_mem_toString (n : Nat) : c ∉ (toString n).toList := by
  rw [Nat.toString_eq_repr, Nat.toList_repr]
  intro hmem
  have hdigit := isDigit_of_mem_toDigits hmem
  rcases hc with rfl | rfl <;> exact absurd hdigit (by decide)

theorem not_mem_commas {texts : List String} (h : ∀ x ∈ texts, c ∉ x.toList) :
    c ∉ (commas texts).toList := by
  have hcomma : c ∉ [',', ' '] := by
    rcases hc with rfl | rfl <;> decide
  intro hmem
  rcases mem_commas hmem with hmem | ⟨x, hx, hmem⟩
  · exact hcomma hmem
  · exact h x hx hmem

end

/-- A call is tame if the first letter of `void` is neither in the name of its function nor in its
arguments. -/
theorem tame_run {function : String} {arguments : List Expr} (hfunction : 'v' ∉ function.toList)
    (harguments : ∀ a ∈ arguments, 'v' ∉ a.text.toList ∧ a.prose = []) :
    (run function arguments).Tame := by
  refine ⟨fun x hx => ?_, fun l hl => ?_⟩
  · have hnil : (run function arguments).prose = [] := by
      rw [run, Stmt.prose, List.flatMap_eq_nil_iff.mpr fun a ha => (harguments a ha).2]
      rfl
    rw [hnil] at hx
    cases hx
  · obtain rfl := List.mem_singleton.mp hl
    have htexts : ∀ x ∈ arguments.map Expr.text, 'v' ∉ x.toList := by
      intro x hx
      obtain ⟨a, ha, rfl⟩ := List.mem_map.mp hx
      exact (harguments a ha).1
    have hopen := not_mem_append hfunction (by decide : 'v' ∉ "(".toList)
    have hclose := not_mem_append (not_mem_append hopen (not_mem_commas (.inl rfl) htexts))
      (by decide : 'v' ∉ ");".toList)
    exact isInner_of_not_mem (.inl rfl) (not_mem_append hclose List.not_mem_nil)

/-! ### All parts -/

theorem tame_connection (transmission : Transmission) : ∀ i ∈ connection transmission, i.Tame := by
  cases transmission <;> decide +kernel

theorem tame_scrollItems (plan : Plan) (direction : Direction) :
    ∀ i ∈ scrollItems plan direction, i.Tame := by
  -- all lines are given but the one with the delay
  have hdelay : (Item.constant "unsigned long" "SCROLL_DELAY_MS" plan.intervalMs.toNat).Tame := by
    refine ⟨nofun, fun l hl => ?_⟩
    obtain rfl := List.mem_singleton.mp hl
    exact isInner_of_not_mem (.inl rfl) (not_mem_append (not_mem_append (by decide)
      (not_mem_toString (.inl rfl) _)) (by decide))
  have hconstants : ∀ i ∈ [Item.constant "int" "LCD_COLUMNS" lcdColumns,
      .constant "unsigned long" "SCROLL_DELAY_MS" plan.intervalMs.toNat,
      .variable "int" "scrollOffset" 0], i.Tame :=
    List.forall_mem_cons.mpr ⟨by decide +kernel, List.forall_mem_cons.mpr
      ⟨hdelay, by decide +kernel⟩⟩
  have hscroll : ∀ i ∈ [.blank,
      .comment "Column a glyph occupies after shifting by the current offset",
      scrollFunction direction, .blank], i.Tame := by
    cases direction <;> decide +kernel
  rw [scrollItems]
  refine List.forall_mem_append.mpr ⟨List.forall_mem_append.mpr ⟨List.forall_mem_append.mpr
    ⟨hconstants, ?_⟩, hscroll⟩, ?_⟩
  · cases plan.isPartial <;> decide +kernel
  · cases plan.isPartial <;> decide +kernel

theorem not_mem_byteText (format : NumberFormat) (byte : Nat) :
    '(' ∉ (byteText format byte).toList := by
  have hdigits {base width : Nat} (hpos : 0 < base) (hbase : base ≤ 16) :
      '(' ∉ (String.ofList (digits base width byte)).toList := by
    rw [String.toList_ofList]
    exact fun hmem => absurd (isWordChar_of_mem_digits hpos hbase hmem) (by decide)
  cases format with
  | hex => exact not_mem_append (by decide) (hdigits (by decide) (by decide))
  | binary => exact not_mem_append (by decide) (hdigits (by decide) (by decide))

/-- An array of bytes is tame. Hexadecimal digits are letters too, so its values are told from
`void` by the parenthesis that they do not have. -/
theorem tame_table (format : NumberFormat) {name : String} (hname : 'v' ∉ name.toList)
    (bytes : List Nat) : (Stmt.table name (bytes.map (.byte format))).Tame := by
  have hprose : (Stmt.table name (bytes.map (.byte format))).prose = [] := by
    rw [Stmt.prose, List.flatMap_map]
    exact List.flatMap_eq_nil_iff.mpr fun _ _ => rfl
  refine ⟨fun x hx => absurd hx (hprose ▸ List.not_mem_nil), fun l hl => ?_⟩
  rcases List.mem_append.mp hl with hl | hl
  · rcases List.mem_cons.mp hl with rfl | hl
    · have hopen := not_mem_append (not_mem_append (by decide : 'v' ∉ "byte ".toList) hname)
        (by decide : 'v' ∉ "[".toList)
      exact isInner_of_not_mem (.inl rfl) (not_mem_append
        (not_mem_append hopen (not_mem_toString (.inl rfl) _)) (by decide))
    · obtain ⟨v, hv, hl⟩ := mem_valueLines hl
      obtain ⟨byte, -, rfl⟩ := List.mem_map.mp hv
      have hbyte := not_mem_byteText format byte
      rcases hl with rfl | rfl
      · exact isInner_of_not_mem (.inr rfl) hbyte
      · exact isInner_of_not_mem (.inr rfl) (not_mem_append hbyte (by decide))
  · obtain rfl := List.mem_singleton.mp hl
    decide +kernel

theorem tame_createChar (format : NumberFormat) (index : Nat) (b : Bitmap) :
    ∀ s ∈ createChar format index b, s.Tame := by
  have hindex := not_mem_toString (.inl rfl) index
  have hname : 'v' ∉ (charName index).toList := not_mem_append (by decide) hindex
  have hcomment : (Stmt.comment ("Character " ++ toString index)).Tame := by
    refine ⟨List.forall_mem_singleton.mpr ?_, fun l hl => ?_⟩
    · have hmark : IsStart "Character " := by decide
      exact hmark.phrase (isPhrase_toString index).text (isPhrase_toString index).ends
    · obtain rfl := List.mem_singleton.mp hl
      exact isInner_of_not_mem (.inl rfl) (not_mem_append (by decide)
        (not_mem_append (by decide) hindex))
  have hcall : (run "lcd.createChar" [.number index, .name (charName index)]).Tame :=
    tame_run (by decide) (List.forall_mem_cons.mpr ⟨⟨hindex, rfl⟩,
      List.forall_mem_singleton.mpr ⟨hname, rfl⟩⟩)
  exact List.forall_mem_cons.mpr ⟨by decide +kernel, List.forall_mem_cons.mpr ⟨hcomment,
    List.forall_mem_cons.mpr ⟨tame_table format hname b.bytes,
      List.forall_mem_singleton.mpr hcall⟩⟩⟩

theorem tame_setupBody (t : GlyphTable) (plan : Plan) (o : Options) : (setupBody t plan o).Tame := by
  refine Stmt.tame_block.mpr (List.forall_mem_append.mpr ⟨List.forall_mem_append.mpr
    ⟨?_, ?_⟩, ?_⟩)
  · cases o.transmission <;> decide +kernel
  · intro s hs
    obtain ⟨e, -, he⟩ := List.mem_flatMap.mp hs
    exact tame_createChar _ _ _ s he
  · cases plan.isPartial <;> decide +kernel

theorem tame_drawAt (p : Placement) {column : Expr}
    (hcolumn : 'v' ∉ column.text.toList ∧ column.prose = []) : ∀ s ∈ drawAt p column, s.Tame := by
  have hbyte : 'v' ∉ (Expr.call "byte" (.number p.glyph)).text.toList :=
    not_mem_append (not_mem_append (by decide) (not_mem_toString (.inl rfl) _)) (by decide)
  have hcursor : (run "lcd.setCursor" [column, .number p.line]).Tame :=
    tame_run (by decide) (List.forall_mem_cons.mpr ⟨hcolumn,
      List.forall_mem_singleton.mpr ⟨not_mem_toString (.inl rfl) _, rfl⟩⟩)
  have hwrite : (run "lcd.write" [.call "byte" (.number p.glyph)]).Tame :=
    tame_run (by decide) (List.forall_mem_singleton.mpr ⟨hbyte, rfl⟩)
  exact List.forall_mem_cons.mpr ⟨hcursor, List.forall_mem_singleton.mpr hwrite⟩

theorem tame_loopBody (plan : Plan) : (loopBody plan).Tame := by
  have hnumber (n : Nat) : 'v' ∉ (Expr.number n).text.toList ∧ (Expr.number n).prose = [] :=
    ⟨not_mem_toString (.inl rfl) n, rfl⟩
  cases plan with
  | «static» placements =>
    have hdelay : (run "delay" [.number (Plan.static placements).intervalMs.toNat]).Tame :=
      tame_run (by decide) (List.forall_mem_singleton.mpr (hnumber _))
    refine Stmt.tame_block.mpr (List.forall_mem_append.mpr ⟨List.forall_mem_append.mpr
      ⟨by decide +kernel, ?_⟩, List.forall_mem_singleton.mpr hdelay⟩)
    intro s hs
    obtain ⟨p, -, hp⟩ := List.mem_flatMap.mp hs
    exact tame_drawAt p (hnumber p.column) s hp
  | naive placements direction =>
    refine Stmt.tame_block.mpr (List.forall_mem_append.mpr ⟨List.forall_mem_append.mpr
      ⟨by decide +kernel, ?_⟩, by decide +kernel⟩)
    intro s hs
    obtain ⟨p, -, hp⟩ := List.mem_flatMap.mp hs
    have hcolumn : 'v' ∉ (Expr.call "scrollColumn" (.number p.column)).text.toList :=
      not_mem_append (not_mem_append (by decide) (not_mem_toString (.inl rfl) _)) (by decide)
    exact tame_drawAt p ⟨hcolumn, rfl⟩ s hp
  | buffered placements direction interval =>
    refine Stmt.tame_block.mpr (List.forall_mem_append.mpr ⟨List.forall_mem_append.mpr
      ⟨List.forall_mem_append.mpr ⟨by decide +kernel, ?_⟩, by decide +kernel⟩, by decide +kernel⟩)
    intro s hs
    obtain ⟨p, -, rfl⟩ := List.mem_map.mp hs
    exact tame_run (by decide) (List.forall_mem_cons.mpr ⟨hnumber _, List.forall_mem_cons.mpr
      ⟨hnumber _, List.forall_mem_singleton.mpr (hnumber _)⟩⟩)

/-! ## The whole sketch -/

section

variable (t : GlyphTable) (plan : Plan) (o : Options)

theorem tame_preamble : ∀ i ∈ preamble plan o, i.Tame := by
  refine List.forall_mem_append.mpr ⟨tame_connection o.transmission, ?_⟩
  cases plan.direction? with
  | none => exact fun i hi => absurd hi List.not_mem_nil
  | some direction => exact tame_scrollItems plan direction

/-- A sketch begins and ends outside all blocks. -/
theorem nested_build : Nested 0 (Program.build t plan o).lines 0 := by
  refine Program.nested (Program.readable_build t plan o) ?_
  refine List.forall_mem_append.mpr ⟨fun i hi => (tame_preamble plan o i hi).1, ?_⟩
  exact List.forall_mem_cons.mpr ⟨(tame_setupBody t plan o).1, List.forall_mem_cons.mpr
    ⟨nofun, List.forall_mem_singleton.mpr (tame_loopBody plan).1⟩⟩

/-- `setup` and `loop` begin outside all blocks. -/
theorem eq_zero_of_tidy {depth : Int} :
    ∀ head ∈ ["void setup() \x7b", "void loop() \x7b"], Tidy depth head.toList → depth = 0 := by
  have hheads : ∀ head ∈ ["void setup() \x7b", "void loop() \x7b"], head.toList ≠ [] ∧
      head.toList.takeWhile (· == ' ') = [] ∧
      (head.toList.dropWhile (· == ' ')).head? ≠ some '\x7d' := by
    decide
  intro head hhead h
  obtain ⟨hne, htake, hdrop⟩ := hheads head hhead
  have hindented := h.indented hne
  rw [htake, if_neg hdrop, List.length_nil] at hindented
  omega

/-- The lines of a sketch before, between and after the beginnings of `setup` and `loop`. -/
theorem exists_printed_build_eq : ∃ before between after : List (List Char),
    printed (Program.build t plan o).lines = before ++ "void setup() \x7b".toList :: between ++
      "void loop() \x7b".toList :: after ∧
    ∀ line ∈ before ++ between ++ after, IsInner line := by
  have hheads : (Line.render ⟨0, "void setup() \x7b"⟩).toList = "void setup() \x7b".toList ∧
      (Line.render ⟨0, "void loop() \x7b"⟩).toList = "void loop() \x7b".toList :=
    ⟨toList_render (by decide), toList_render (by decide)⟩
  have hlines : (Program.build t plan o).lines = _ :=
    Program.lines_setup_loop (preamble plan o) (setupBody t plan o) (loopBody plan)
  refine ⟨printed (preamble plan o).lines,
    printed ((setupBody t plan o).lines 1 ++ [⟨0, "\x7d"⟩, ⟨0, ""⟩]),
    printed ((loopBody plan).lines 1 ++ [⟨0, "\x7d"⟩]), ?_, ?_⟩
  · rw [hlines, printed, List.map_append, List.map_append, List.map_cons, List.map_cons, hheads.1,
      hheads.2]
    rfl
  · have hbefore : ∀ l ∈ (preamble plan o).lines, IsInner l.text.toList := by
      intro l hl
      obtain ⟨i, hi, hl⟩ := List.mem_flatMap.mp hl
      exact (tame_preamble plan o i hi).2 l hl
    have hbetween : ∀ l ∈ (setupBody t plan o).lines 1 ++ [⟨0, "\x7d"⟩, ⟨0, ""⟩],
        IsInner l.text.toList :=
      List.forall_mem_append.mpr ⟨(tame_setupBody t plan o).2, by decide +kernel⟩
    have hafter : ∀ l ∈ (loopBody plan).lines 1 ++ [⟨0, "\x7d"⟩], IsInner l.text.toList :=
      List.forall_mem_append.mpr ⟨(tame_loopBody plan).2, by decide +kernel⟩
    simp only [printed, ← List.map_append, List.forall_mem_map]
    intro l hl
    exact isInner_render (List.forall_mem_append.mpr
      ⟨List.forall_mem_append.mpr ⟨hbefore, hbetween⟩, hafter⟩ l hl)

/-- **The text of a sketch is well nested.** For every table of characters, plan and options it is
made of printable lines that end in a newline and not in a space. As many braces are closed as are
opened, and never more. Every line is indented for the braces that are open before it, and `setup`
and `loop` begin once each, in this order and outside all braces. -/
theorem Program.well_nested :
    ∃ lines : List (List Char),
      (Program.build t plan o).text.toList = lines.flatMap (· ++ ['\n']) ∧
      (∀ before line after, lines = before ++ line :: after →
        Tidy (braces before.flatten) line ∧ 0 ≤ braces (before ++ [line]).flatten) ∧
      braces lines.flatten = 0 ∧
      ∃ before between after : List (List Char),
        lines = before ++ "void setup() \x7b".toList :: between ++
          "void loop() \x7b".toList :: after ∧
        braces before.flatten = 0 ∧
        braces (before ++ "void setup() \x7b".toList :: between).flatten = 0 ∧
        ∀ line ∈ before ++ between ++ after,
          ¬ "void setup()".toList <:+: line ∧ ¬ "void loop()".toList <:+: line := by
  have hnested := nested_build t plan o
  have htidy {before after : List (List Char)} {line : List Char}
      (h : printed (Program.build t plan o).lines = before ++ line :: after) :
      Tidy (braces before.flatten) line ∧ 0 ≤ braces (before ++ [line]).flatten := by
    have hline := hnested.tidy h
    rwa [Int.natCast_zero, Int.zero_add, Int.zero_add] at hline
  have hbraces := hnested.braces_printed
  refine ⟨printed (Program.build t plan o).lines, Program.toList_text _, fun _ _ _ h => htidy h,
    ?_, ?_⟩
  · rwa [Int.natCast_zero, Int.zero_add] at hbraces
  · obtain ⟨before, between, after, hlines, hinner⟩ := exists_printed_build_eq t plan o
    -- neither beginning is indented, so no brace is open before it
    have hsetup := htidy (hlines.trans (List.append_assoc _ _ _))
    exact ⟨before, between, after, hlines, eq_zero_of_tidy _ (by decide) hsetup.1,
      eq_zero_of_tidy _ (by decide) (htidy hlines).1, hinner⟩

end

end CharLcd.Sketch
