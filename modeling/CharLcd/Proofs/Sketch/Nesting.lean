import CharLcd.Proofs.Sketch.Tokens

/-!
# How the lines of a sketch are nested

Every line of a statement stands as deep as the statement, or in one of its blocks. A line that ends
in an opening brace takes the lines after it one block deeper, and a line that begins with a closing
brace stands one block higher than the lines before it.

- `IsText`, `IsStart`, `IsPhrase`: texts without braces, those that may begin a line, and those that
  may be a line.
- `Line.Moves`: what a line does to the depth. `Nested`: what several lines do.
- `Expr.prose`, `Stmt.prose`, `Item.prose`: the texts in a phrase that are no words.
- `Stmt.nested`, `Item.nested`, `Program.nested`: phrases that can be read back and whose prose has
  no braces leave the depth as it was.
-/

namespace CharLcd.Sketch

/-! ## Texts -/

/-- A printable character that is no brace. -/
def isTextChar (c : Char) : Bool := ' ' ≤ c && c ≤ '~' && c != '\x7b' && c != '\x7d'

/-- A text without braces. -/
def IsText (s : String) : Prop := s.toList.all isTextChar = true

instance (s : String) : Decidable (IsText s) := inferInstanceAs (Decidable (_ = true))

/-- A text that may begin a line: it does not begin with a space. -/
structure IsStart (s : String) : Prop where
  text : IsText s
  begins : s.toList.head?.any (· != ' ') = true

/-- A text that may be a line: it does not end in a space either. -/
structure IsPhrase (s : String) : Prop extends IsStart s where
  ends : s.toList.getLast?.any (· != ' ') = true

instance (s : String) : Decidable (IsStart s) :=
  decidable_of_iff (IsText s ∧ s.toList.head?.any (· != ' ') = true)
    ⟨fun h => ⟨h.1, h.2⟩, fun h => ⟨h.text, h.begins⟩⟩

instance (s : String) : Decidable (IsPhrase s) :=
  decidable_of_iff (IsStart s ∧ s.toList.getLast?.any (· != ' ') = true)
    ⟨fun h => ⟨h.1, h.2⟩, fun h => ⟨h.toIsStart, h.ends⟩⟩

section

variable {s t : String}

theorem IsText.append (hs : IsText s) (ht : IsText t) : IsText (s ++ t) := by
  rw [IsText, String.toList_append, List.all_append, Bool.and_eq_true]
  exact ⟨hs, ht⟩

/-- A start is not empty. -/
theorem IsStart.head?_append (hs : IsStart s) (t : String) :
    (s ++ t).toList.head? = s.toList.head? := by
  have hbegins := hs.begins
  rw [String.toList_append, List.head?_append]
  cases hhead : s.toList.head? with
  | none => rw [hhead] at hbegins; cases hbegins
  | some c => rfl

theorem IsStart.append (hs : IsStart s) (ht : IsText t) : IsStart (s ++ t) where
  text := hs.text.append ht
  begins := by
    rw [hs.head?_append]
    exact hs.begins

/-- The end of a text decides whether it may be a line. -/
theorem IsStart.phrase (hs : IsStart s) (ht : IsText t)
    (hends : t.toList.getLast?.any (· != ' ') = true) : IsPhrase (s ++ t) where
  toIsStart := hs.append ht
  ends := by
    rw [String.toList_append, List.getLast?_append]
    cases hlast : t.toList.getLast? with
    | none => rw [hlast] at hends; cases hends
    | some c => rwa [hlast] at hends

theorem IsPhrase.append (hs : IsPhrase s) (ht : IsPhrase t) : IsPhrase (s ++ t) :=
  hs.toIsStart.phrase ht.text ht.ends

theorem isTextChar_of_isWordChar {c : Char} (h : isWordChar c = true) :
    isTextChar c = true ∧ c ≠ ' ' := by
  have hle (a b : Char) : a ≤ b ↔ a.toNat ≤ b.toNat := Iff.rfl
  have hclasses : isWordChar c = (((decide ('A' ≤ c ∧ c ≤ 'Z') || ('a' ≤ c && c ≤ 'z')) ||
      ('0' ≤ c && c ≤ '9')) || c = '_' || c = '.') := rfl
  simp only [hclasses, Bool.or_eq_true, Bool.and_eq_true, decide_eq_true_eq, hle,
    ← Char.toNat_inj, Char.reduceToNat] at h
  simp only [isTextChar, Bool.and_eq_true, bne_iff_ne, ne_eq, decide_eq_true_eq, hle,
    ← Char.toNat_inj, Char.reduceToNat]
  omega

/-- Words and numbers may be lines. -/
theorem isPhrase_of_isWordChar (hne : s.toList ≠ []) (h : ∀ c ∈ s.toList, isWordChar c = true) :
    IsPhrase s := by
  have hsolid : ∀ c ∈ s.toList, (c != ' ') = true :=
    fun c hc => bne_iff_ne.mpr (isTextChar_of_isWordChar (h c hc)).2
  refine ⟨⟨List.all_eq_true.mpr fun c hc => (isTextChar_of_isWordChar (h c hc)).1, ?_⟩, ?_⟩
  · rw [List.head?_eq_some_head hne]
    exact hsolid _ (List.head_mem hne)
  · rw [List.getLast?_eq_some_getLast hne]
    exact hsolid _ (List.getLast_mem hne)

theorem IsWord.phrase (h : IsWord s) : IsPhrase s := by
  refine isPhrase_of_isWordChar (fun hnil => ?_) (List.all_eq_true.mp h.2)
  have hhead := h.1
  rw [hnil] at hhead
  cases hhead

theorem isPhrase_toString (n : Nat) : IsPhrase (toString n) := by
  have hlist : (toString n).toList = Nat.toDigits 10 n := by
    rw [Nat.toString_eq_repr, Nat.toList_repr]
  refine isPhrase_of_isWordChar ?_ fun c hc => ?_
  · rw [hlist]
    exact Nat.toDigits_ne_nil
  · rw [hlist] at hc
    exact isWordChar_of_isDigit (isDigit_of_mem_toDigits hc)

theorem isPhrase_byteText (format : NumberFormat) (byte : Nat) :
    IsPhrase (byteText format byte) := by
  have hdigits {base width : Nat} (hpos : 0 < base) (hbase : base ≤ 16) (hwidth : 0 < width) :
      IsPhrase (String.ofList (digits base width byte)) := by
    refine isPhrase_of_isWordChar ?_ ?_
    · rw [String.toList_ofList]
      exact List.ne_nil_of_length_pos (Nat.lt_of_lt_of_eq hwidth (length_digits _ _ _).symm)
    · rw [String.toList_ofList]
      exact fun c hc => isWordChar_of_mem_digits hpos hbase hc
  cases format with
  | hex =>
    have hmark : IsPhrase "0x" := by decide
    exact hmark.append (hdigits (by decide) (by decide) (by decide))
  | binary =>
    have hmark : IsPhrase "0b" := by decide
    exact hmark.append (hdigits (by decide) (by decide) (by decide))

theorem isPhrase_type : ∀ type ∈ "void" :: numberTypes, IsPhrase type := by
  decide

/-- What stands in texts with commas between them. -/
theorem mem_commas {c : Char} {texts : List String} (h : c ∈ (commas texts).toList) :
    c ∈ [',', ' '] ∨ ∃ x ∈ texts, c ∈ x.toList := by
  induction texts with
  | nil => cases h
  | cons x rest ih =>
    cases rest with
    | nil =>
      rw [commas, String.intercalate_singleton] at h
      exact .inr ⟨x, List.mem_cons_self, h⟩
    | cons y rest =>
      rw [commas, String.intercalate_cons_cons, String.toList_append, String.toList_append] at h
      rcases List.mem_append.mp h with h | h
      · exact (List.mem_append.mp h).elim (fun hx => .inr ⟨x, List.mem_cons_self, hx⟩) .inl
      · refine (ih h).imp id ?_
        rintro ⟨z, hz, hcz⟩
        exact ⟨z, List.mem_cons_of_mem x hz, hcz⟩

theorem isText_commas {texts : List String} (h : ∀ x ∈ texts, IsText x) :
    IsText (commas texts) := by
  have hcomma : [',', ' '].all isTextChar = true := by decide
  refine List.all_eq_true.mpr fun c hc => ?_
  rcases mem_commas hc with hc | ⟨x, hx, hc⟩
  · exact List.all_eq_true.mp hcomma c hc
  · exact List.all_eq_true.mp (h x hx) c hc

end

/-! ## Lines -/

/-- What a line does to the depth. -/
inductive Line.Moves : Nat → Line → Nat → Prop
  | blank (depth : Nat) : Moves depth ⟨0, ""⟩ depth
  | phrase {depth : Nat} {text : String} (h : IsPhrase text) : Moves depth ⟨depth, text⟩ depth
  /-- The first line of a block, or of an array. -/
  | opens {depth : Nat} {text mark : String} (h : IsStart text)
    (hmark : mark ∈ [") \x7b", "++) \x7b", "] = \x7b"]) : Moves depth ⟨depth, text ++ mark⟩ (depth + 1)
  /-- The line between two blocks. -/
  | turns (depth : Nat) : Moves (depth + 1) ⟨depth, "\x7d else \x7b"⟩ (depth + 1)
  /-- The last line of a block, or of an array. -/
  | closes {depth : Nat} {mark : String} (hmark : mark ∈ ["\x7d", "\x7d;"]) :
    Moves (depth + 1) ⟨depth, mark⟩ depth

/-- What several lines do to the depth. -/
inductive Nested : Nat → List Line → Nat → Prop
  | nil (depth : Nat) : Nested depth [] depth
  | cons {before between after : Nat} {l : Line} {rest : List Line} (h : l.Moves before between)
    (hrest : Nested between rest after) : Nested before (l :: rest) after

namespace Nested

variable {before between after depth : Nat} {lines more : List Line} {first last : Line}

theorem append (h : Nested before lines between) (hmore : Nested between more after) :
    Nested before (lines ++ more) after := by
  induction h with
  | nil => exact hmore
  | cons hline _ ih => exact .cons hline (ih hmore)

theorem singleton (h : first.Moves before after) : Nested before [first] after := .cons h (.nil _)

/-- Lines that may stand one below the other. -/
theorem phrases (h : ∀ l ∈ lines, l.depth = depth ∧ IsPhrase l.text) : Nested depth lines depth := by
  induction lines with
  | nil => exact .nil depth
  | cons l rest ih =>
    obtain ⟨rfl, htext⟩ := h l List.mem_cons_self
    exact .cons (.phrase htext) (ih fun m hm => h m (List.mem_cons_of_mem l hm))

/-- A block between its first and its last line. -/
theorem block (hfirst : first.Moves depth (depth + 1)) (h : Nested (depth + 1) lines (depth + 1))
    (hlast : last.Moves (depth + 1) depth) : Nested depth (first :: lines ++ [last]) depth :=
  .append (.cons hfirst h) (.singleton hlast)

end Nested

/-! ## Phrases -/

/-- The characters in quotes in an expression. -/
def Expr.prose : Expr → List String
  | .number _ | .byte _ _ | .name _ => []
  | .char c => [(Expr.char c).text]
  | .entry _ line column => line.prose ++ column.prose
  | .binary _ left right => left.prose ++ right.prose
  | .parens e => e.prose
  | .call _ argument => argument.prose

/-- The comments and remarks in a statement, and what its expressions have in quotes. -/
def Stmt.prose : Stmt → List String
  | .skip | .blank => []
  | .comment text => [text]
  | .seq first rest => first.prose ++ rest.prose
  | .declare _ _ value | .assign _ value | .increase _ value | .ret value => value.prose
  | .table _ values => values.flatMap Expr.prose
  | .store _ line column value => line.prose ++ column.prose ++ value.prose
  | .call _ arguments remark => arguments.flatMap Expr.prose ++ remark.toList
  | .ifThen condition body => condition.prose ++ body.prose
  | .ifElse condition yes no => condition.prose ++ yes.prose ++ no.prose
  | .countTo _ bound body => bound.prose ++ body.prose

/-- The comments in an item, the header that it includes, and the prose in its parts. -/
def Item.prose : Item → List String
  | .blank | .constant _ _ _ | .variable _ _ _ | .frame _ => []
  | .comment text | .header text => [text]
  | .object _ _ arguments => arguments.flatMap Expr.prose
  | .function _ _ _ body => body.prose

section

variable {depth : Nat}

theorem isText_sign (op : Op) : IsText (" " ++ op.sign ++ " ") := by
  cases op <;> decide

/-- An expression has no braces. -/
theorem Expr.isPhrase_text {e : Expr} {least : Nat} (h : e.Readable least)
    (hprose : ∀ x ∈ e.prose, IsPhrase x) : IsPhrase e.text := by
  induction e generalizing least with
  | number n => exact isPhrase_toString n
  | byte format value => exact isPhrase_byteText format value
  | char c => exact hprose _ List.mem_cons_self
  | name x => exact IsWord.phrase h
  | entry array line column hline hcolumn =>
    obtain ⟨ha, hl, hc⟩ := h
    obtain ⟨hlprose, hcprose⟩ := List.forall_mem_append.mp hprose
    have hopen := ha.phrase.toIsStart.append (by decide : IsText "[")
    have hmid := (hopen.append (hline hl hlprose).text).append (by decide : IsText "][")
    exact (hmid.append (hcolumn hc hcprose).text).phrase (by decide) (by decide)
  | binary op left right hleft hright =>
    obtain ⟨-, hl, hr⟩ := h
    obtain ⟨hlprose, hrprose⟩ := List.forall_mem_append.mp hprose
    have hsign := (hleft hl hlprose).toIsStart.append (isText_sign op)
    have hr := hright hr hrprose
    have htext : (Expr.binary op left right).text =
        left.text ++ (" " ++ op.sign ++ " ") ++ right.text := by
      simp only [text, String.append_assoc]
    rw [htext]
    exact hsign.phrase hr.text hr.ends
  | parens e he =>
    have hopen : IsStart "(" := by decide
    exact (hopen.append (he h hprose).text).phrase (by decide) (by decide)
  | call function argument hargument =>
    obtain ⟨hf, ha⟩ := h
    have hopen := hf.phrase.toIsStart.append (by decide : IsText "(")
    exact (hopen.append (hargument ha hprose).text).phrase (by decide) (by decide)

theorem isText_arguments {arguments : List Expr} (h : ∀ a ∈ arguments, a.Readable 0)
    (hprose : ∀ x ∈ arguments.flatMap Expr.prose, IsPhrase x) :
    IsText (commas (arguments.map Expr.text)) := by
  refine isText_commas fun x hx => ?_
  obtain ⟨a, ha, rfl⟩ := List.mem_map.mp hx
  exact (Expr.isPhrase_text (h a ha) fun y hy => hprose y (List.mem_flatMap.mpr ⟨a, ha, hy⟩)).text

/-- The values of an array stand one below the other, all but the last with a comma after them. -/
theorem mem_valueLines {values : List Expr} {l : Line} (h : l ∈ valueLines depth values) :
    ∃ v ∈ values, l = ⟨depth, v.text⟩ ∨ l = ⟨depth, v.text ++ ","⟩ := by
  induction values with
  | nil => cases h
  | cons v rest ih =>
    cases rest with
    | nil => exact ⟨v, List.mem_cons_self, .inl (List.mem_singleton.mp h)⟩
    | cons w rest =>
      rcases List.mem_cons.mp h with hl | h
      · exact ⟨v, List.mem_cons_self, .inr hl⟩
      · obtain ⟨u, hu, hl⟩ := ih h
        exact ⟨u, List.mem_cons_of_mem v hu, hl⟩

theorem nested_valueLines {values : List Expr} (h : ∀ v ∈ values, v.Readable 0)
    (hprose : ∀ x ∈ values.flatMap Expr.prose, IsPhrase x) :
    Nested depth (valueLines depth values) depth := by
  refine .phrases fun l hl => ?_
  obtain ⟨v, hv, hl⟩ := mem_valueLines hl
  have htext : IsPhrase v.text :=
    Expr.isPhrase_text (h v hv) fun x hx => hprose x (List.mem_flatMap.mpr ⟨v, hv, hx⟩)
  rcases hl with rfl | rfl
  · exact ⟨rfl, htext⟩
  · exact ⟨rfl, htext.toIsStart.phrase (by decide) (by decide)⟩

/-- A condition in its parentheses opens a block. -/
theorem moves_if {condition : Expr} (h : condition.Readable 0)
    (hprose : ∀ x ∈ condition.prose, IsPhrase x) :
    Line.Moves depth ⟨depth, "if (" ++ condition.text ++ ") \x7b"⟩ (depth + 1) := by
  have hopen : IsStart "if (" := by decide
  exact .opens (hopen.append (Expr.isPhrase_text h hprose).text) (by decide)

/-- A statement leaves the depth as it was. -/
theorem Stmt.nested {s : Stmt} (h : s.Readable) (hprose : ∀ x ∈ s.prose, IsPhrase x)
    (depth : Nat) : Nested depth (s.lines depth) depth := by
  have hclose (depth : Nat) : Line.Moves (depth + 1) ⟨depth, "\x7d"⟩ depth :=
    .closes List.mem_cons_self
  -- A block is one deeper than its statement. A line is put together from its first part, which
  -- decides how it begins, to its last, which decides how it ends.
  induction s generalizing depth with
  | skip => exact .nil depth
  | seq first rest ihfirst ihrest =>
    obtain ⟨hfirst, hrest⟩ := List.forall_mem_append.mp hprose
    exact (ihfirst h.1 hfirst depth).append (ihrest h.2 hrest depth)
  | blank => exact .singleton (.blank depth)
  | comment text =>
    have hmark : IsStart "// " := by decide
    have htext := hprose text List.mem_cons_self
    exact .singleton (.phrase (hmark.phrase htext.text htext.ends))
  | declare type x value =>
    obtain ⟨htype, hx, hvalue⟩ := h
    have htype := isPhrase_type type (List.mem_cons_of_mem _ htype)
    have hhead := (htype.toIsStart.append (by decide : IsText " ")).append hx.phrase.text
    have hmid := (hhead.append (by decide : IsText " = ")).append
      (Expr.isPhrase_text hvalue hprose).text
    exact .singleton (.phrase (hmid.phrase (by decide) (by decide)))
  | table x values =>
    obtain ⟨hx, hvalues⟩ := h
    have hbyte : IsStart "byte " := by decide
    have hhead := (hbyte.append hx.phrase.text).append (by decide : IsText "[")
    have hfirst := hhead.append (isPhrase_toString values.length).text
    exact .block (.opens hfirst (by decide)) (nested_valueLines hvalues hprose)
      (.closes (by decide))
  | assign x value =>
    obtain ⟨hx, hvalue⟩ := h
    have hhead := hx.1.phrase.toIsStart.append (by decide : IsText " = ")
    have hmid := hhead.append (Expr.isPhrase_text hvalue hprose).text
    exact .singleton (.phrase (hmid.phrase (by decide) (by decide)))
  | increase x value =>
    obtain ⟨hx, hvalue⟩ := h
    have hhead := hx.1.phrase.toIsStart.append (by decide : IsText " += ")
    have hmid := hhead.append (Expr.isPhrase_text hvalue hprose).text
    exact .singleton (.phrase (hmid.phrase (by decide) (by decide)))
  | store array line column value =>
    obtain ⟨harray, hline, hcolumn, hvalue⟩ := h
    obtain ⟨hplace, hvprose⟩ := List.forall_mem_append.mp hprose
    have hentry : (Expr.entry array line column).Readable 0 := ⟨harray.1, hline, hcolumn⟩
    have hhead := (Expr.isPhrase_text hentry hplace).toIsStart.append (by decide : IsText " = ")
    have hmid := hhead.append (Expr.isPhrase_text hvalue hvprose).text
    exact .singleton (.phrase (hmid.phrase (by decide) (by decide)))
  | call function arguments remark =>
    obtain ⟨hfunction, harguments, -⟩ := h
    obtain ⟨haprose, hremark⟩ := List.forall_mem_append.mp hprose
    have hopen := hfunction.1.phrase.toIsStart.append (by decide : IsText "(")
    have hmid := hopen.append (isText_arguments harguments haprose)
    have hcall := hmid.phrase (by decide : IsText ");") (by decide)
    refine .singleton (.phrase ?_)
    cases remark with
    | none =>
      rw [Option.map_none, Option.getD_none, String.append_empty]
      exact hcall
    | some text =>
      have htext := hremark text List.mem_cons_self
      have hmark := hcall.toIsStart.append (by decide : IsText " // ")
      rw [Option.map_some, Option.getD_some, ← String.append_assoc]
      exact hmark.phrase htext.text htext.ends
  | ifThen condition body ih =>
    obtain ⟨hcprose, hbody⟩ := List.forall_mem_append.mp hprose
    exact .block (moves_if h.1 hcprose) (ih h.2 hbody (depth + 1)) (hclose depth)
  | ifElse condition yes no ihyes ihno =>
    obtain ⟨hcondition, hyes, hno⟩ := h
    obtain ⟨hfirst, hnprose⟩ := List.forall_mem_append.mp hprose
    obtain ⟨hcprose, hyprose⟩ := List.forall_mem_append.mp hfirst
    -- the line between the blocks ends the first one and opens the second
    have hyes := Nested.cons (moves_if hcondition hcprose) (ihyes hyes hyprose (depth + 1))
    have hno := Nested.cons (.turns depth) (ihno hno hnprose (depth + 1))
    exact (hyes.append hno).append (.singleton (hclose depth))
  | countTo index bound body ih =>
    obtain ⟨hindex, hbound, hbody⟩ := h
    obtain ⟨hbprose, hprose⟩ := List.forall_mem_append.mp hprose
    have hfor : IsStart "for (int " := by decide
    have hstart := (hfor.append hindex.phrase.text).append (by decide : IsText " = 0; ")
    have hless := (hstart.append hindex.phrase.text).append (by decide : IsText " < ")
    have hend := (hless.append (Expr.isPhrase_text hbound hbprose).text).append
      (by decide : IsText "; ")
    exact .block (.opens (hend.append hindex.phrase.text) (by decide))
      (ih hbody hprose (depth + 1)) (hclose depth)
  | ret value =>
    have hhead : IsStart "return " := by decide
    have hmid := hhead.append (Expr.isPhrase_text h hprose).text
    exact .singleton (.phrase (hmid.phrase (by decide) (by decide)))

/-- An item begins and ends outside all blocks. -/
theorem Item.nested {i : Item} (h : i.Readable) (hprose : ∀ x ∈ i.prose, IsPhrase x) :
    Nested 0 i.lines 0 := by
  cases i with
  | blank => exact .singleton (.blank 0)
  | comment text =>
    have hmark : IsStart "// " := by decide
    have htext := hprose text List.mem_cons_self
    exact .singleton (.phrase (hmark.phrase htext.text htext.ends))
  | header file =>
    have hmark : IsStart "#include <" := by decide
    have hfile := hmark.append (hprose file List.mem_cons_self).text
    exact .singleton (.phrase (hfile.phrase (by decide) (by decide)))
  | object type x arguments =>
    obtain ⟨htype, hx, harguments⟩ := h
    have hhead := (htype.1.phrase.toIsStart.append (by decide : IsText " ")).append hx.phrase.text
    have hmid := (hhead.append (by decide : IsText "(")).append (isText_arguments harguments hprose)
    exact .singleton (.phrase (hmid.phrase (by decide) (by decide)))
  | constant type x value =>
    obtain ⟨htype, hx⟩ := h
    have hconst : IsStart "const " := by decide
    have htype := isPhrase_type type (List.mem_cons_of_mem _ htype)
    have hhead := ((hconst.append htype.text).append (by decide : IsText " ")).append hx.phrase.text
    have hmid := (hhead.append (by decide : IsText " = ")).append (isPhrase_toString value).text
    exact .singleton (.phrase (hmid.phrase (by decide) (by decide)))
  | «variable» type x value =>
    obtain ⟨htype, hx⟩ := h
    have htype := isPhrase_type type (List.mem_cons_of_mem _ htype)
    have hhead := (htype.toIsStart.append (by decide : IsText " ")).append hx.phrase.text
    have hmid := (hhead.append (by decide : IsText " = ")).append (isPhrase_toString value).text
    exact .singleton (.phrase (hmid.phrase (by decide) (by decide)))
  | frame x =>
    have hbyte : IsStart "byte " := by decide
    have hhead := (hbyte.append (IsWord.phrase h).text).append (by decide : IsText "[")
    have hmid := hhead.append (isPhrase_toString lcdLines).text
    exact .singleton (.phrase (hmid.phrase (by decide) (by decide)))
  | function result x parameters body =>
    obtain ⟨hresult, hx, hparameters, hbody⟩ := h
    have hparameter : ∀ text ∈ parameters.map fun p => p.1 ++ " " ++ p.2, IsText text := by
      intro text htext
      obtain ⟨p, hp, rfl⟩ := List.mem_map.mp htext
      have htype := isPhrase_type p.1 (List.mem_cons_of_mem _ (hparameters p hp).1)
      exact (htype.text.append (by decide)).append (hparameters p hp).2.phrase.text
    have hhead := ((isPhrase_type result hresult).toIsStart.append (by decide : IsText " ")).append
      hx.phrase.text
    have hmid := (hhead.append (by decide : IsText "(")).append (isText_commas hparameter)
    exact .block (.opens hmid (by decide)) (Stmt.nested hbody hprose 1) (.closes (by decide))

end

/-- A sketch begins and ends outside all blocks. -/
theorem Program.nested {p : Program} (h : p.Readable)
    (hprose : ∀ i ∈ p, ∀ x ∈ i.prose, IsPhrase x) : Nested 0 p.lines 0 := by
  induction p with
  | nil => exact .nil 0
  | cons i rest ih =>
    have hi := Item.nested (h i List.mem_cons_self) (hprose i List.mem_cons_self)
    exact hi.append (ih (fun j hj => h j (List.mem_cons_of_mem i hj))
      fun j hj => hprose j (List.mem_cons_of_mem i hj))

end CharLcd.Sketch
