import CharLcd.Proofs.Sketch.Spelling
import CharLcd.Sketch.Grammar
import CharLcd.Sketch.Printer

/-!
# The tokens of a printed sketch

- `Expr.tokens`, `Stmt.tokens`, `Item.tokens`: the tokens of a phrase.
- `Expr.Readable`, `Stmt.Readable`, `Item.Readable`: phrases whose text says what
  they are. Names are words, comments end with their lines, and the operands of
  an operator bind more tightly than it does.
- `Program.tokens?_text`: the text of a readable sketch has its tokens.
-/

namespace CharLcd.Sketch

/-! ## Expressions -/

/-- The tokens of an expression. -/
def Expr.tokens : Expr → List Token
  | .number n => [.number n]
  | .byte format value => [.byte format value]
  | .char c => [.char c]
  | .name x => [.word x]
  | .entry array line column =>
    [.word array] ++ [.mark "["] ++ line.tokens ++ [.mark "]", .mark "["] ++ column.tokens ++
      [.mark "]"]
  | .binary op left right => left.tokens ++ [.mark op.sign] ++ right.tokens
  | .parens e => [.mark "("] ++ e.tokens ++ [.mark ")"]
  | .call function argument => [.word function] ++ [.mark "("] ++ argument.tokens ++ [.mark ")"]

/-- An expression that can be read back where operators bind at least as tightly as a level. -/
def Expr.Readable (least : Nat) : Expr → Prop
  | .number _ => True
  | .byte _ value => value < 256
  | .char c => isPlainChar c = true
  | .name x => IsWord x
  | .entry array line column => IsWord array ∧ line.Readable 0 ∧ column.Readable 0
  | .binary op left right =>
    least ≤ Grammar.level op ∧ left.Readable (Grammar.level op) ∧
      right.Readable (Grammar.level op + 1)
  | .parens e => e.Readable 0
  | .call function argument => IsWord function ∧ argument.Readable 0

/-- Whether an expression can be read back. -/
def Expr.decideReadable (least : Nat) : (e : Expr) → Decidable (e.Readable least)
  | .number _ => isTrue trivial
  | .byte _ value => inferInstanceAs (Decidable (value < 256))
  | .char c => inferInstanceAs (Decidable (isPlainChar c = true))
  | .name x => inferInstanceAs (Decidable (IsWord x))
  | .entry _ line column =>
    have := line.decideReadable 0
    have := column.decideReadable 0
    inferInstanceAs (Decidable (_ ∧ _ ∧ _))
  | .binary op left right =>
    have := left.decideReadable (Grammar.level op)
    have := right.decideReadable (Grammar.level op + 1)
    inferInstanceAs (Decidable (_ ∧ _ ∧ _))
  | .parens e => e.decideReadable 0
  | .call _ argument =>
    have := argument.decideReadable 0
    inferInstanceAs (Decidable (_ ∧ _))

instance (least : Nat) (e : Expr) : Decidable (e.Readable least) := e.decideReadable least

/-- An operator stands between spaces. -/
theorem divides_sign (op : Op) : Divides (" " ++ op.sign ++ " ") [.mark op.sign] := by
  cases op <;> decide

/-- The text of an expression spells its tokens. -/
theorem Expr.Readable.spells {e : Expr} {least : Nat} (h : e.Readable least) : Spells e.text e.tokens := by
  induction e generalizing least with
  | number n => exact spells_number n
  | byte format value => exact spells_byte format h
  | char c => exact (closes_char h).to_spells
  | name x => exact spells_word h
  | entry array line column hline hcolumn =>
    obtain ⟨ha, hl, hc⟩ := h
    have hopen := (spells_word ha).close (by decide : Divides "[" [.mark "["])
    have hmid := (hopen.spells (hline hl)).close (by decide : Divides "][" [.mark "]", .mark "["])
    have hclose := (hmid.spells (hcolumn hc)).close (by decide : Divides "]" [.mark "]"])
    exact hclose.to_spells
  | binary op left right hleft hright =>
    obtain ⟨-, hl, hr⟩ := h
    have hsign := (hleft hl).close (divides_sign op)
    have htext : (Expr.binary op left right).text =
        left.text ++ (" " ++ op.sign ++ " ") ++ right.text := by
      simp only [text, String.append_assoc]
    rw [htext]
    exact hsign.spells (hright hr)
  | parens e he =>
    have hopen : Closes "(" [.mark "("] := by decide
    have hclose := (hopen.spells (he h)).close (by decide : Divides ")" [.mark ")"])
    exact hclose.to_spells
  | call function argument hargument =>
    obtain ⟨hf, ha⟩ := h
    have hopen := (spells_word hf).close (by decide : Divides "(" [.mark "("])
    have hclose := (hopen.spells (hargument ha)).close (by decide : Divides ")" [.mark ")"])
    exact hclose.to_spells

/-! ## Lists -/

/-- The tokens of phrases with commas between them. -/
def commaTokens : List (List Token) → List Token
  | [] => []
  | [ts] => ts
  | ts :: us :: rest => ts ++ [.mark ","] ++ commaTokens (us :: rest)

theorem spells_commas {α : Type} {phrases : List α} {text : α → String} {tokens : α → List Token}
    (h : ∀ a ∈ phrases, Spells (text a) (tokens a)) :
    Spells (commas (phrases.map text)) (commaTokens (phrases.map tokens)) := by
  induction phrases with
  | nil => exact (by decide : Closes "" []).to_spells
  | cons a rest ih =>
    have ha := h a List.mem_cons_self
    have hrest := ih fun b hb => h b (List.mem_cons_of_mem a hb)
    cases rest with
    | nil =>
      rw [commas, List.map_singleton, String.intercalate_singleton]
      exact ha
    | cons b rest =>
      have hcomma := ha.close (by decide : Divides ", " [.mark ","])
      rw [commas, List.map_cons, List.map_cons, String.intercalate_cons_cons]
      exact hcomma.spells hrest

/-! ## Lines -/

/-- The text of some lines is the spelling of some tokens. -/
def LinesSpell (lines : List Line) (ts : List Token) : Prop :=
  Closes (String.join (lines.map fun l => l.render ++ "\n")) ts

theorem LinesSpell.nil : LinesSpell [] [] := by
  rw [LinesSpell, List.map_nil, String.join_nil]
  decide

theorem LinesSpell.append {lines more : List Line} {ts us : List Token} (h : LinesSpell lines ts)
    (hmore : LinesSpell more us) : LinesSpell (lines ++ more) (ts ++ us) := by
  rw [LinesSpell, List.map_append, String.join_append]
  exact Closes.append h hmore

theorem LinesSpell.cons {line : Line} {more : List Line} {ts us : List Token}
    (h : LinesSpell [line] ts) (hmore : LinesSpell more us) :
    LinesSpell (line :: more) (ts ++ us) := by
  rw [← List.singleton_append]
  exact h.append hmore

/-- Indentation means nothing. -/
theorem closes_indentation (n : Nat) : Closes (String.ofList (List.replicate n ' ')) [] := by
  rw [Closes, String.toList_ofList]
  induction n with
  | zero => rfl
  | succ n ih => exact Mode.steps_cons_iff.mpr ⟨[], .between, [], by decide, ih, rfl⟩

theorem linesSpell_singleton {depth : Nat} {text : String} {ts : List Token}
    (h : Closes (text ++ "\n") ts) : LinesSpell [⟨depth, text⟩] ts := by
  rw [LinesSpell, List.map_singleton, String.join_cons, String.join_nil, String.append_empty,
    Line.render]
  split
  next hempty =>
    have htext : text = "" := String.isEmpty_iff.mp hempty
    rwa [htext] at h
  next =>
    have hline := (closes_indentation (2 * depth)).append h
    rwa [List.nil_append, ← String.append_assoc] at hline

theorem linesSpell_of_spells (depth : Nat) {text : String} {ts : List Token}
    (h : Spells text ts) : LinesSpell [⟨depth, text⟩] ts := by
  have hline := h.close (by decide : Divides "\n" [])
  rw [List.append_nil] at hline
  exact linesSpell_singleton hline

/-- An empty line means nothing. -/
theorem linesSpell_blank : LinesSpell [⟨0, ""⟩] [] := by
  rw [LinesSpell]
  decide

/-- Text that cannot contain the end of a line. -/
def IsOneLine (text : String) : Prop := '\n' ∉ text.toList

instance (text : String) : Decidable (IsOneLine text) := by
  unfold IsOneLine
  exact inferInstance

theorem steps_comment {text : List Char} (h : '\n' ∉ text) :
    Mode.comment.steps text = some ([], .comment) := by
  induction text with
  | nil => rfl
  | cons c rest ih =>
    rw [List.mem_cons, not_or] at h
    have hstep : Mode.comment.step c = some ([], .comment) := by
      rw [Mode.step, if_neg (Ne.symm h.1)]
    exact Mode.steps_cons_iff.mpr ⟨[], .comment, [], hstep, ih h.2, rfl⟩

/-- A comment means nothing. -/
theorem closes_comment {text : String} (h : IsOneLine text) :
    Closes ("// " ++ text ++ "\n") [] := by
  rw [Closes, String.toList_append, String.toList_append]
  have hopen : Mode.between.steps "// ".toList = some ([], .comment) := by decide
  have hend : Mode.comment.steps "\n".toList = some ([], .between) := by decide
  exact Mode.steps_append (Mode.steps_append hopen (steps_comment h)) hend

/-! ## Types and names -/

/-- The types of numbers. -/
def numberTypes : List String := ["int", "byte", "unsigned long"]

/-- The tokens of a type. -/
def typeTokens (type : String) : List Token :=
  if type = "unsigned long" then [.word "unsigned", .word "long"] else [.word type]

theorem spells_type {type : String} (h : type ∈ "void" :: numberTypes) :
    Spells type (typeTokens type) := by
  simp only [numberTypes, List.mem_cons, List.not_mem_nil, or_false] at h
  rcases h with rfl | rfl | rfl | rfl
  · exact spells_word (by decide)
  · exact spells_word (by decide)
  · exact spells_word (by decide)
  · have hfirst := (spells_word (x := "unsigned") (by decide)).space
    exact hfirst.spells (spells_word (x := "long") (by decide))

/-- The words that are no names at the beginning of a statement or an item. -/
def keywords : List String :=
  ["int", "byte", "unsigned", "void", "const", "if", "else", "for", "return"]

/-- A word that is no keyword. -/
def IsName (x : String) : Prop := IsWord x ∧ x ∉ keywords

instance (x : String) : Decidable (IsName x) := by
  unfold IsName
  exact inferInstance

/-! ## Statements -/

/-- The tokens of a statement. -/
def Stmt.tokens : Stmt → List Token
  | .skip | .blank | .comment _ => []
  | .seq first rest => first.tokens ++ rest.tokens
  | .declare type x value =>
    typeTokens type ++ [.word x] ++ [.mark "="] ++ value.tokens ++ [.mark ";"]
  | .table x values =>
    [.word "byte"] ++ [.word x] ++ [.mark "["] ++ [.number values.length] ++
      [.mark "]", .mark "=", .mark "\x7b"] ++ commaTokens (values.map Expr.tokens) ++
      [.mark "\x7d", .mark ";"]
  | .assign x value => [.word x] ++ [.mark "="] ++ value.tokens ++ [.mark ";"]
  | .increase x value => [.word x] ++ [.mark "+="] ++ value.tokens ++ [.mark ";"]
  | .store array line column value =>
    (Expr.entry array line column).tokens ++ [.mark "="] ++ value.tokens ++ [.mark ";"]
  | .call function arguments _ =>
    [.word function] ++ [.mark "("] ++ commaTokens (arguments.map Expr.tokens) ++
      [.mark ")", .mark ";"]
  | .ifThen condition body =>
    [.word "if", .mark "("] ++ condition.tokens ++ [.mark ")", .mark "\x7b"] ++ body.tokens ++
      [.mark "\x7d"]
  | .ifElse condition yes no =>
    [.word "if", .mark "("] ++ condition.tokens ++ [.mark ")", .mark "\x7b"] ++ yes.tokens ++
      ([.mark "\x7d", .word "else", .mark "\x7b"] ++ no.tokens ++ [.mark "\x7d"])
  | .countTo index bound body =>
    [.word "for", .mark "(", .word "int"] ++ [.word index] ++ [.mark "=", .number 0, .mark ";"] ++
      [.word index] ++ [.mark "<"] ++ bound.tokens ++ [.mark ";"] ++
      ([.word index] ++ [.mark "++", .mark ")", .mark "\x7b"]) ++ body.tokens ++ [.mark "\x7d"]
  | .ret value => [.word "return"] ++ value.tokens ++ [.mark ";"]

/-- A statement that can be read back. -/
def Stmt.Readable : Stmt → Prop
  | .skip | .blank => True
  | .comment text => IsOneLine text
  | .seq first rest => first.Readable ∧ rest.Readable
  | .declare type x value => type ∈ numberTypes ∧ IsWord x ∧ value.Readable 0
  | .table x values => IsWord x ∧ ∀ v ∈ values, v.Readable 0
  | .assign x value | .increase x value => IsName x ∧ value.Readable 0
  | .store array line column value =>
    IsName array ∧ line.Readable 0 ∧ column.Readable 0 ∧ value.Readable 0
  | .call function arguments remark =>
    IsName function ∧ (∀ a ∈ arguments, a.Readable 0) ∧ ∀ r ∈ remark, IsOneLine r
  | .ifThen condition body => condition.Readable 0 ∧ body.Readable
  | .ifElse condition yes no => condition.Readable 0 ∧ yes.Readable ∧ no.Readable
  | .countTo index bound body =>
    IsWord index ∧ bound.Readable (Grammar.level .lt + 1) ∧ body.Readable
  | .ret value => value.Readable 0

/-- Whether a statement can be read back. -/
def Stmt.decideReadable : (s : Stmt) → Decidable s.Readable
  | .skip | .blank => isTrue trivial
  | .comment text => inferInstanceAs (Decidable (IsOneLine text))
  | .seq first rest =>
    have := first.decideReadable
    have := rest.decideReadable
    inferInstanceAs (Decidable (_ ∧ _))
  | .declare _ _ _ => inferInstanceAs (Decidable (_ ∧ _ ∧ _))
  | .table _ _ => inferInstanceAs (Decidable (_ ∧ _))
  | .assign _ _ | .increase _ _ => inferInstanceAs (Decidable (_ ∧ _))
  | .store _ _ _ _ => inferInstanceAs (Decidable (_ ∧ _ ∧ _ ∧ _))
  | .call _ _ _ => inferInstanceAs (Decidable (_ ∧ _ ∧ _))
  | .ifThen _ body =>
    have := body.decideReadable
    inferInstanceAs (Decidable (_ ∧ _))
  | .ifElse _ yes no =>
    have := yes.decideReadable
    have := no.decideReadable
    inferInstanceAs (Decidable (_ ∧ _ ∧ _))
  | .countTo _ _ body =>
    have := body.decideReadable
    inferInstanceAs (Decidable (_ ∧ _ ∧ _))
  | .ret value => value.decideReadable 0

instance (s : Stmt) : Decidable s.Readable := s.decideReadable

theorem linesSpell_values (depth : Nat) {values : List Expr} (h : ∀ v ∈ values, v.Readable 0) :
    LinesSpell (valueLines depth values) (commaTokens (values.map Expr.tokens)) := by
  induction values with
  | nil => exact LinesSpell.nil
  | cons v rest ih =>
    have hv := (h v List.mem_cons_self).spells
    have hrest := ih fun w hw => h w (List.mem_cons_of_mem v hw)
    cases rest with
    | nil => exact linesSpell_of_spells depth hv
    | cons w rest =>
      have hcomma := hv.close (by decide : Divides "," [.mark ","])
      exact (linesSpell_of_spells depth hcomma.to_spells).cons hrest

/-- A remark at the end of a line means nothing. -/
theorem linesSpell_of_remark (depth : Nat) {text : String} {ts : List Token}
    {remark : Option String} (h : Closes text ts) (hremark : ∀ r ∈ remark, IsOneLine r) :
    LinesSpell [⟨depth, text ++ (remark.map (" // " ++ ·)).getD ""⟩] ts := by
  cases remark with
  | none =>
    rw [Option.map_none, Option.getD_none, String.append_empty]
    exact linesSpell_of_spells depth h.to_spells
  | some r =>
    have hcomment := h.to_spells.space.append (closes_comment (hremark r rfl))
    rw [List.append_nil] at hcomment
    refine linesSpell_singleton ?_
    have htext : text ++ ((some r).map (" // " ++ ·)).getD "" ++ "\n" =
        text ++ " " ++ ("// " ++ r ++ "\n") := by
      rw [Option.map_some, Option.getD_some, show " // " = " " ++ "// " from rfl]
      simp only [String.append_assoc]
    rw [htext]
    exact hcomment

/-- The lines of a body between the line that opens it and the one that closes it. -/
theorem LinesSpell.body (depth : Nat) {opening : String} {lines : List Line}
    {ts us : List Token} (hopening : Spells opening ts) (h : LinesSpell lines us) :
    LinesSpell (⟨depth, opening⟩ :: lines ++ [⟨depth, "\x7d"⟩]) (ts ++ us ++ [.mark "\x7d"]) := by
  have hclose : Closes "\x7d" [.mark "\x7d"] := by decide
  exact ((linesSpell_of_spells depth hopening).cons h).append
    (linesSpell_of_spells depth hclose.to_spells)

theorem spells_if {condition : Expr} (h : condition.Readable 0) :
    Spells ("if (" ++ condition.text ++ ") \x7b")
      ([Token.word "if", Token.mark "("] ++ condition.tokens ++
        [Token.mark ")", Token.mark "\x7b"]) := by
  have hopen : Closes "if (" [.word "if", .mark "("] := by decide
  have hclose := (hopen.spells h.spells).close (by decide : Divides ") \x7b" [.mark ")", .mark "\x7b"])
  exact hclose.to_spells

theorem spells_for {index : String} {bound : Expr} (hindex : IsWord index)
    (hbound : bound.Readable (Grammar.level .lt + 1)) :
    Spells ("for (int " ++ index ++ " = 0; " ++ index ++ " < " ++ bound.text ++ "; " ++
        index ++ "++) \x7b")
      ([Token.word "for", Token.mark "(", Token.word "int"] ++ [Token.word index] ++
        [Token.mark "=", Token.number 0, Token.mark ";"] ++ [Token.word index] ++
        [Token.mark "<"] ++ bound.tokens ++ [Token.mark ";"] ++
        ([Token.word index] ++ [Token.mark "++", Token.mark ")", Token.mark "\x7b"])) := by
  have hopen : Closes "for (int " [.word "for", .mark "(", .word "int"] := by decide
  have hstart := (hopen.spells (spells_word hindex)).close
    (by decide : Divides " = 0; " [.mark "=", .number 0, .mark ";"])
  have htest := (hstart.spells (spells_word hindex)).close (by decide : Divides " < " [.mark "<"])
  have hbound := (htest.spells hbound.spells).close (by decide : Divides "; " [.mark ";"])
  have hnext : Closes (index ++ "++) \x7b") _ :=
    hindex.close (by decide : Closes "++) \x7b" [.mark "++", .mark ")", .mark "\x7b"]) (by decide)
  have hclose := hbound.append hnext
  rw [← String.append_assoc] at hclose
  exact hclose.to_spells

/-- The lines of a statement spell its tokens. -/
theorem Stmt.Readable.linesSpell {s : Stmt} (h : s.Readable) (depth : Nat) :
    LinesSpell (s.lines depth) s.tokens := by
  induction s generalizing depth with
  | skip => exact LinesSpell.nil
  | seq first rest hfirst hrest => exact (hfirst h.1 depth).append (hrest h.2 depth)
  | blank => exact linesSpell_blank
  | comment text => exact linesSpell_singleton (closes_comment h)
  | declare type x value =>
    obtain ⟨htype, hx, hvalue⟩ := h
    have hhead := (spells_type (List.mem_cons_of_mem _ htype)).space.spells (spells_word hx)
    have hmid := hhead.close (by decide : Divides " = " [.mark "="])
    have hline := (hmid.spells hvalue.spells).close (by decide : Divides ";" [.mark ";"])
    exact linesSpell_of_spells depth hline.to_spells
  | table x values =>
    obtain ⟨hx, hvalues⟩ := h
    have hhead := (by decide : Closes "byte " [.word "byte"]).spells (spells_word hx)
    have hopen := hhead.close (by decide : Divides "[" [.mark "["])
    have hline := (hopen.spells (spells_number values.length)).close
      (by decide : Divides "] = \x7b" [.mark "]", .mark "=", .mark "\x7b"])
    have hend : Closes "\x7d;" [.mark "\x7d", .mark ";"] := by decide
    exact ((linesSpell_of_spells depth hline.to_spells).cons
      (linesSpell_values (depth + 1) hvalues)).append (linesSpell_of_spells depth hend.to_spells)
  | assign x value =>
    have hmid := (spells_word h.1.1).close (by decide : Divides " = " [.mark "="])
    have hline := (hmid.spells h.2.spells).close (by decide : Divides ";" [.mark ";"])
    exact linesSpell_of_spells depth hline.to_spells
  | increase x value =>
    have hmid := (spells_word h.1.1).close (by decide : Divides " += " [.mark "+="])
    have hline := (hmid.spells h.2.spells).close (by decide : Divides ";" [.mark ";"])
    exact linesSpell_of_spells depth hline.to_spells
  | store array line column value =>
    obtain ⟨harray, hline, hcolumn, hvalue⟩ := h
    have hentry : (Expr.entry array line column).Readable 0 := ⟨harray.1, hline, hcolumn⟩
    have hmid := hentry.spells.close (by decide : Divides " = " [.mark "="])
    have hline := (hmid.spells hvalue.spells).close (by decide : Divides ";" [.mark ";"])
    exact linesSpell_of_spells depth hline.to_spells
  | call function arguments remark =>
    obtain ⟨hfunction, harguments, hremark⟩ := h
    have hopen := (spells_word hfunction.1).close (by decide : Divides "(" [.mark "("])
    have hlist := spells_commas fun a ha => (harguments a ha).spells
    have hline := (hopen.spells hlist).close (by decide : Divides ");" [.mark ")", .mark ";"])
    exact linesSpell_of_remark depth hline hremark
  | ifThen condition body hbody =>
    exact LinesSpell.body depth (spells_if h.1) (hbody h.2 (depth + 1))
  | ifElse condition yes no hyes hno =>
    obtain ⟨hcondition, hy, hn⟩ := h
    have helse : Closes "\x7d else \x7b" [.mark "\x7d", .word "else", .mark "\x7b"] := by decide
    have hfirst := (linesSpell_of_spells depth (spells_if hcondition)).cons (hyes hy (depth + 1))
    have hsecond := LinesSpell.body depth helse.to_spells (hno hn (depth + 1))
    have hall := hfirst.append hsecond
    rwa [← List.append_assoc] at hall
  | countTo index bound body hbody =>
    exact LinesSpell.body depth (spells_for h.1 h.2.1) (hbody h.2.2 (depth + 1))
  | ret value =>
    have hopen : Closes "return " [.word "return"] := by decide
    have hline := (hopen.spells h.spells).close (by decide : Divides ";" [.mark ";"])
    exact linesSpell_of_spells depth hline.to_spells

/-! ## Items -/

/-- The tokens of a parameter of a function. -/
def parameterTokens (p : String × String) : List Token := typeTokens p.1 ++ [.word p.2]

/-- The tokens of a top-level item. -/
def Item.tokens : Item → List Token
  | .blank | .comment _ => []
  | .header file => [.header file]
  | .object type x arguments =>
    [.word type] ++ [.word x] ++ [.mark "("] ++ commaTokens (arguments.map Expr.tokens) ++
      [.mark ")", .mark ";"]
  | .constant type x value =>
    [.word "const"] ++ typeTokens type ++ [.word x] ++ [.mark "="] ++ [.number value] ++ [.mark ";"]
  | .variable type x value =>
    typeTokens type ++ [.word x] ++ [.mark "="] ++ [.number value] ++ [.mark ";"]
  | .frame x =>
    [.word "byte"] ++ [.word x] ++ [.mark "["] ++ [.number lcdLines] ++
      [.mark "]", .mark "[", .word "LCD_COLUMNS", .mark "]", .mark ";"]
  | .function result x parameters body =>
    typeTokens result ++ [.word x] ++ [.mark "("] ++
      commaTokens (parameters.map parameterTokens) ++ [.mark ")", .mark "\x7b"] ++ body.tokens ++
      [.mark "\x7d"]

/-- An item that can be read back. -/
def Item.Readable : Item → Prop
  | .blank => True
  | .comment text => IsOneLine text
  | .header file => IsOneLine file
  | .object type x arguments => IsName type ∧ IsWord x ∧ ∀ a ∈ arguments, a.Readable 0
  | .constant type x _ | .variable type x _ => type ∈ numberTypes ∧ IsWord x
  | .frame x => IsWord x
  | .function result x parameters body =>
    result ∈ "void" :: numberTypes ∧ IsWord x ∧
      (∀ p ∈ parameters, p.1 ∈ numberTypes ∧ IsWord p.2) ∧ body.Readable

instance (i : Item) : Decidable i.Readable := by
  cases i <;> unfold Item.Readable <;> exact inferInstance

theorem steps_directive {text : List Char} (reversed : List Char) (h : '\n' ∉ text) :
    (Mode.directive reversed).steps text = some ([], .directive (text.reverse ++ reversed)) := by
  induction text generalizing reversed with
  | nil => rfl
  | cons c rest ih =>
    rw [List.mem_cons, not_or] at h
    have hstep : (Mode.directive reversed).step c = some ([], .directive (c :: reversed)) := by
      rw [Mode.step, if_neg (Ne.symm h.1)]
    rw [List.reverse_cons, List.append_assoc]
    exact Mode.steps_cons_iff.mpr ⟨[], _, [], hstep, ih _ h.2, rfl⟩

theorem directiveToken?_header (file : String) :
    directiveToken? ("include <".toList ++ file.toList ++ ['>']) = some (.header file) := by
  have htake : ("include <".toList ++ file.toList ++ ['>']).take "include <".toList.length =
      "include <".toList := by
    rw [List.append_assoc, List.take_left]
  have hdrop : ("include <".toList ++ file.toList ++ ['>']).drop "include <".toList.length =
      file.toList ++ ['>'] := by
    rw [List.append_assoc, List.drop_left]
  rw [directiveToken?, htake, hdrop, if_pos ⟨rfl, List.getLast?_concat⟩, List.dropLast_concat,
    String.ofList_toList]

theorem closes_header {file : String} (h : IsOneLine file) :
    Closes ("#include <" ++ file ++ ">" ++ "\n") [.header file] := by
  have hline : '\n' ∉ "include <".toList ++ file.toList ++ ['>'] := by
    rw [List.mem_append, List.mem_append]
    rintro ((hin | hin) | hin)
    · exact absurd hin (by decide)
    · exact h hin
    · exact absurd hin (by decide)
  have hend : (Mode.directive ("include <".toList ++ file.toList ++ ['>']).reverse).step '\n' =
      some ([.header file], .between) := by
    rw [Mode.step, if_pos rfl, List.reverse_reverse, directiveToken?_header]
    rfl
  have htext : ("#include <" ++ file ++ ">" ++ "\n").toList =
      ['#'] ++ ("include <".toList ++ file.toList ++ ['>']) ++ ['\n'] := by
    simp
  rw [Closes, htext]
  have hhash : Mode.between.steps ['#'] = some ([], .directive []) := by decide
  have hmid := steps_directive [] hline
  rw [List.append_nil] at hmid
  exact Mode.steps_append (Mode.steps_append hhash hmid)
    (Mode.steps_cons_iff.mpr ⟨_, _, [], hend, rfl, rfl⟩)

/-- The lines of an item spell its tokens. -/
theorem Item.Readable.linesSpell {i : Item} (h : i.Readable) : LinesSpell i.lines i.tokens := by
  cases i with
  | blank => exact linesSpell_blank
  | comment text => exact linesSpell_singleton (closes_comment h)
  | header file => exact linesSpell_singleton (closes_header h)
  | object type x arguments =>
    obtain ⟨htype, hx, harguments⟩ := h
    have hopen := ((spells_word htype.1).space.spells (spells_word hx)).close
      (by decide : Divides "(" [.mark "("])
    have hlist := spells_commas fun a ha => (harguments a ha).spells
    have hline := (hopen.spells hlist).close (by decide : Divides ");" [.mark ")", .mark ";"])
    exact linesSpell_of_spells 0 hline.to_spells
  | constant type x value =>
    obtain ⟨htype, hx⟩ := h
    have hconst : Closes "const " [.word "const"] := by decide
    have hhead := (hconst.spells (spells_type (List.mem_cons_of_mem _ htype))).space.spells
      (spells_word hx)
    have hmid := hhead.close (by decide : Divides " = " [.mark "="])
    have hline := (hmid.spells (spells_number value)).close (by decide : Divides ";" [.mark ";"])
    exact linesSpell_of_spells 0 hline.to_spells
  | «variable» type x value =>
    obtain ⟨htype, hx⟩ := h
    have hhead := (spells_type (List.mem_cons_of_mem _ htype)).space.spells (spells_word hx)
    have hmid := hhead.close (by decide : Divides " = " [.mark "="])
    have hline := (hmid.spells (spells_number value)).close (by decide : Divides ";" [.mark ";"])
    exact linesSpell_of_spells 0 hline.to_spells
  | frame x =>
    have hhead := (by decide : Closes "byte " [.word "byte"]).spells (spells_word h)
    have hopen := hhead.close (by decide : Divides "[" [.mark "["])
    have hline := (hopen.spells (spells_number lcdLines)).close
      (by decide : Divides "][LCD_COLUMNS];"
        [.mark "]", .mark "[", .word "LCD_COLUMNS", .mark "]", .mark ";"])
    exact linesSpell_of_spells 0 hline.to_spells
  | function result x parameters body =>
    obtain ⟨hresult, hx, hparameters, hbody⟩ := h
    have hopen := ((spells_type hresult).space.spells (spells_word hx)).close
      (by decide : Divides "(" [.mark "("])
    have hparameter : ∀ p ∈ parameters, Spells (p.1 ++ " " ++ p.2) (parameterTokens p) :=
      fun p hp => (spells_type (List.mem_cons_of_mem _ (hparameters p hp).1)).space.spells
        (spells_word (hparameters p hp).2)
    have hlist := spells_commas hparameter
    have hline := (hopen.spells hlist).close
      (by decide : Divides ") \x7b" [.mark ")", .mark "\x7b"])
    exact LinesSpell.body 0 hline.to_spells (hbody.linesSpell 1)

/-! ## Sketches -/

namespace Program

/-- The tokens of a sketch. -/
def tokens (p : Program) : List Token := p.flatMap Item.tokens

/-- A sketch that can be read back. -/
def Readable (p : Program) : Prop := ∀ i ∈ p, i.Readable

/-- The text of a sketch has its tokens. -/
theorem tokens?_text {p : Program} (h : p.Readable) : tokens? p.text = some p.tokens := by
  have hlines : LinesSpell p.lines p.tokens := by
    induction p with
    | nil => exact LinesSpell.nil
    | cons i rest ih =>
      exact (h i List.mem_cons_self).linesSpell.append
        (ih fun j hj => h j (List.mem_cons_of_mem i hj))
  have hrun := Mode.run_of_steps hlines (by rfl : Mode.between.finish = some [])
  rwa [List.append_nil] at hrun

end Program

end CharLcd.Sketch
