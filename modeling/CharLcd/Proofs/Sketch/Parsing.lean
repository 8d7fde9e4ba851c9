import CharLcd.Proofs.Sketch.Tokens
import CharLcd.Sketch.Plain

/-!
# Reading a printed sketch back

- `expression_tokens`: an expression is read from its tokens.
- `readAs_tokens`: a statement is read as what is plain of it.
- `Program.ofText?_text`: so is a whole sketch from its text.
-/

namespace CharLcd.Sketch

namespace Grammar

variable {α β : Type}

/-! ## Single steps -/

theorem bind_eq {p : Parser α} {f : α → Parser β} {ts rest : List Token} {a : α}
    (h : p ts = some (a, rest)) : (p >>= f) ts = f a rest := by
  show (p ts).bind (fun r => f r.1 r.2) = _
  rw [h, Option.bind_some]

theorem expect_eq (t : Token) (rest : List Token) : expect t (t :: rest) = some ((), rest) := by
  refine (bind_eq (rfl : take (t :: rest) = some (t, rest))).trans ?_
  rw [if_pos rfl]
  rfl

theorem mark_eq (text : String) (rest : List Token) :
    mark text (.mark text :: rest) = some ((), rest) :=
  expect_eq _ rest

theorem peek_eq (ts : List Token) : peek ts = some (ts.head?, ts) := rfl

theorem take_eq (t : Token) (rest : List Token) : take (t :: rest) = some (t, rest) := rfl

theorem name_eq (x : String) (rest : List Token) : name (.word x :: rest) = some (x, rest) := rfl

theorem number_eq (n : Nat) (rest : List Token) : number (.number n :: rest) = some (n, rest) := rfl

/-! ## Expressions -/

/-- What may follow an expression whose operators bind at least as tightly as a level: no bracket,
and no operator that binds more tightly. -/
def Follows (k : Nat) (rest : List Token) : Prop :=
  ∀ t ∈ rest.head?, t ≠ .mark "(" ∧ t ≠ .mark "[" ∧ ∀ op, operator? t = some op → level op ≤ k

/-- What ends an expression: neither a bracket nor an operator. -/
def Ends (rest : List Token) : Prop :=
  ∀ t ∈ rest.head?, t ≠ .mark "(" ∧ t ≠ .mark "[" ∧ operator? t = none

theorem Ends.follows {rest : List Token} (h : Ends rest) (k : Nat) : Follows k rest := by
  intro t ht
  obtain ⟨hparen, hbracket, hop⟩ := h t ht
  refine ⟨hparen, hbracket, fun op hsome => ?_⟩
  rw [hop] at hsome
  cases hsome

theorem operator?_sign (op : Op) : operator? (.mark op.sign) = some op := by
  cases op <;> rfl

theorem follows_sign (op : Op) (rest : List Token) : Follows (level op) (.mark op.sign :: rest) := by
  rintro _ ⟨⟩
  refine ⟨?_, ?_, fun op' h => ?_⟩
  · cases op <;> decide
  · cases op <;> decide
  · rw [operator?_sign] at h
    cases h
    exact Nat.le_refl _

/-- No operator goes on with the expression. -/
theorem climb_stop {rest : List Token} {least : Nat}
    (h : ∀ t ∈ rest.head?, ∀ op, operator? t = some op → level op < least) (fuel : Nat)
    (left : Expr) : climb fuel least left rest = some (left, rest) := by
  cases fuel with
  | zero => rfl
  | succ fuel =>
    rw [climb]
    refine (bind_eq (peek_eq rest)).trans ?_
    cases hop : rest.head?.bind operator? with
    | none => rfl
    | some op =>
      obtain ⟨t, ht, hsome⟩ := Option.bind_eq_some_iff.mp hop
      have hlt := h t ht op hsome
      show (if least ≤ level op then _ else _ : Parser Expr) rest = _
      rw [if_neg (by omega)]
      rfl

/-- An operator that binds tightly enough goes on with the expression. -/
theorem climb_step {fuel least : Nat} {op : Op} {left right : Expr} {ts rest : List Token}
    (hlevel : least ≤ level op) (hright : expression fuel (level op + 1) ts = some (right, rest)) :
    climb (fuel + 1) least left (.mark op.sign :: ts) =
      climb fuel least (.binary op left right) rest := by
  have hop : (Token.mark op.sign :: ts).head?.bind operator? = some op := operator?_sign op
  rw [climb]
  refine (bind_eq (peek_eq _)).trans ?_
  simp only [hop, if_pos hlevel]
  refine (bind_eq (take_eq _ _)).trans ?_
  exact bind_eq hright

/-- Reading an operand leads to where operators go on. -/
theorem climb_of_operand {e : Expr} {fuel least : Nat} {rest : List Token}
    (hfuel : 2 * e.tokens.length ≤ fuel) (hpos : 0 < e.tokens.length)
    (h : ∀ f, 2 * e.tokens.length ≤ f + 1 → operand f (e.tokens ++ rest) = some (e, rest)) :
    ∃ left, fuel - 2 * e.tokens.length ≤ left ∧
      expression fuel least (e.tokens ++ rest) = climb left least e rest := by
  obtain ⟨f, rfl⟩ : ∃ f, fuel = f + 1 := ⟨fuel - 1, by omega⟩
  refine ⟨f, by omega, ?_⟩
  rw [expression]
  exact bind_eq (h f hfuel)

/-- Between brackets an expression is read to its end. -/
theorem expression_of_climb {fuel left least : Nat} {ts rest : List Token} {e : Expr}
    (h : expression fuel least ts = climb left least e rest) (hrest : Ends rest) :
    expression fuel least ts = some (e, rest) := by
  refine h.trans (climb_stop ?_ left e)
  intro t ht op hop
  rw [(hrest t ht).2.2] at hop
  cases hop

theorem ends_mark {text : String} (rest : List Token) (hparen : text ≠ "(") (hbracket : text ≠ "[")
    (hop : operator? (.mark text) = none) : Ends (.mark text :: rest) := by
  rintro _ ⟨⟩
  exact ⟨fun h => hparen (Token.mark.inj h), fun h => hbracket (Token.mark.inj h), hop⟩

/-- With enough fuel, reading an expression leads to where its operators go on. -/
theorem expression_tokens_climb {e : Expr} {k : Nat} (h : e.Readable k) (fuel least : Nat)
    (rest : List Token) (hfuel : 2 * e.tokens.length ≤ fuel) (hleast : least ≤ k)
    (hrest : Follows k rest) :
    ∃ left, fuel - 2 * e.tokens.length ≤ left ∧
      expression fuel least (e.tokens ++ rest) = climb left least e rest := by
  induction e generalizing k fuel least rest with
  | number n =>
    refine climb_of_operand hfuel Nat.zero_lt_one fun f hf => ?_
    obtain ⟨g, rfl⟩ : ∃ g, f = g + 1 := ⟨f - 1, by simp [Expr.tokens] at hf; omega⟩
    rfl
  | byte format value =>
    refine climb_of_operand hfuel Nat.zero_lt_one fun f hf => ?_
    obtain ⟨g, rfl⟩ : ∃ g, f = g + 1 := ⟨f - 1, by simp [Expr.tokens] at hf; omega⟩
    rfl
  | char c =>
    refine climb_of_operand hfuel Nat.zero_lt_one fun f hf => ?_
    obtain ⟨g, rfl⟩ : ∃ g, f = g + 1 := ⟨f - 1, by simp [Expr.tokens] at hf; omega⟩
    rfl
  | name x =>
    refine climb_of_operand hfuel Nat.zero_lt_one fun f hf => ?_
    obtain ⟨g, rfl⟩ : ∃ g, f = g + 1 := ⟨f - 1, by simp [Expr.tokens] at hf; omega⟩
    rw [Expr.tokens, List.singleton_append]
    refine (bind_eq (take_eq _ _)).trans ((bind_eq (peek_eq _)).trans ?_)
    have hparen : rest.head? ≠ some (.mark "(") := fun h => (hrest _ h).1 rfl
    have hbracket : rest.head? ≠ some (.mark "[") := fun h => (hrest _ h).2.1 rfl
    rw [if_neg hparen, if_neg hbracket]
    rfl
  | entry array line column hline hcolumn =>
    obtain ⟨-, hl, hc⟩ := h
    have hends₁ (more : List Token) : Ends (.mark "]" :: more) :=
      ends_mark more (by decide) (by decide) rfl
    refine climb_of_operand hfuel (by simp [Expr.tokens]) fun f hf => ?_
    simp only [Expr.tokens, List.length_append, List.length_cons, List.length_nil] at hf
    obtain ⟨g, rfl⟩ : ∃ g, f = g + 1 := ⟨f - 1, by omega⟩
    obtain ⟨left₁, -, heq₁⟩ := hline hl g 0
      (.mark "]" :: .mark "[" :: (column.tokens ++ .mark "]" :: rest)) (by omega)
      (Nat.le_refl _) ((hends₁ _).follows 0)
    obtain ⟨left₂, -, heq₂⟩ := hcolumn hc g 0 (.mark "]" :: rest) (by omega)
      (Nat.le_refl _) ((hends₁ _).follows 0)
    rw [Expr.tokens]
    simp only [List.append_assoc, List.cons_append, List.nil_append]
    refine (bind_eq (take_eq _ _)).trans ((bind_eq (peek_eq _)).trans ?_)
    refine (bind_eq (mark_eq _ _)).trans ?_
    refine (bind_eq (expression_of_climb heq₁ (hends₁ _))).trans ?_
    refine (bind_eq (mark_eq _ _)).trans ((bind_eq (mark_eq _ _)).trans ?_)
    refine (bind_eq (expression_of_climb heq₂ (hends₁ _))).trans ?_
    exact bind_eq (mark_eq _ _)
  | binary op left right hleft hright =>
    obtain ⟨hlevel, hl, hr⟩ := h
    simp only [Expr.tokens, List.length_append, List.length_singleton] at hfuel
    obtain ⟨left₁, hleft₁, heq₁⟩ := hleft hl fuel least
      (.mark op.sign :: (right.tokens ++ rest)) (by omega) (by omega) (follows_sign op _)
    obtain ⟨f, rfl⟩ : ∃ f, left₁ = f + 1 := ⟨left₁ - 1, by omega⟩
    have hfollows : Follows (level op + 1) rest := by
      intro t ht
      obtain ⟨hparen, hbracket, hop⟩ := hrest t ht
      refine ⟨hparen, hbracket, fun op' hop' => ?_⟩
      have := hop op' hop'
      omega
    obtain ⟨left₂, -, heq₂⟩ := hright hr f (level op + 1) rest (by omega)
      (Nat.le_refl _) hfollows
    -- what follows binds no more tightly than the operator, so the right operand ends there
    have hstop : climb left₂ (level op + 1) right rest = some (right, rest) := by
      refine climb_stop (fun t ht op' hop' => ?_) _ _
      have := (hrest t ht).2.2 op' hop'
      omega
    refine ⟨f, ?_, ?_⟩
    · simp only [Expr.tokens, List.length_append, List.length_singleton]
      omega
    · rw [Expr.tokens, List.append_assoc, List.append_assoc, List.singleton_append, heq₁]
      exact climb_step (by omega) (heq₂.trans hstop)
  | parens e he =>
    have hends : Ends (.mark ")" :: rest) := ends_mark rest (by decide) (by decide) rfl
    refine climb_of_operand hfuel (by simp [Expr.tokens]) fun f hf => ?_
    simp only [Expr.tokens, List.length_append, List.length_cons, List.length_nil] at hf
    obtain ⟨g, rfl⟩ : ∃ g, f = g + 1 := ⟨f - 1, by omega⟩
    obtain ⟨left, -, heq⟩ := he (k := 0) h g 0 _ (by omega) (Nat.le_refl _)
      (hends.follows 0)
    rw [Expr.tokens]
    simp only [List.append_assoc, List.cons_append, List.nil_append]
    refine (bind_eq (take_eq _ _)).trans ?_
    refine (bind_eq (expression_of_climb heq hends)).trans ?_
    exact bind_eq (mark_eq _ _)
  | call function argument hargument =>
    have hends : Ends (.mark ")" :: rest) := ends_mark rest (by decide) (by decide) rfl
    refine climb_of_operand hfuel (by simp [Expr.tokens]) fun f hf => ?_
    simp only [Expr.tokens, List.length_append, List.length_cons, List.length_nil] at hf
    obtain ⟨g, rfl⟩ : ∃ g, f = g + 1 := ⟨f - 1, by omega⟩
    obtain ⟨left, -, heq⟩ := hargument h.2 g 0 _ (by omega) (Nat.le_refl _)
      (hends.follows 0)
    rw [Expr.tokens]
    simp only [List.append_assoc, List.cons_append, List.nil_append]
    refine (bind_eq (take_eq _ _)).trans ((bind_eq (peek_eq _)).trans ?_)
    refine (bind_eq (mark_eq _ _)).trans ?_
    refine (bind_eq (expression_of_climb heq hends)).trans ?_
    exact bind_eq (mark_eq _ _)

/-- An expression is read from its tokens, up to what ends it. -/
theorem expression_tokens {e : Expr} {k : Nat} (h : e.Readable k) {fuel : Nat}
    {rest : List Token} (hfuel : 2 * e.tokens.length ≤ fuel) (hrest : Ends rest) :
    expression fuel k (e.tokens ++ rest) = some (e, rest) := by
  obtain ⟨left, -, heq⟩ := expression_tokens_climb h fuel k rest hfuel (Nat.le_refl k)
    (hrest.follows k)
  exact expression_of_climb heq hrest

theorem unbounded_eq {p : Nat → Parser α} {ts : List Token} :
    unbounded p ts = p (2 * ts.length) ts := rfl

theorem wholeExpression_tokens {e : Expr} (h : e.Readable 0) {rest : List Token}
    (hrest : Ends rest) : wholeExpression (e.tokens ++ rest) = some (e, rest) := by
  refine unbounded_eq.trans (expression_tokens h ?_ hrest)
  rw [List.length_append]
  omega

/-! ## Lists -/

/-- A phrase is read from its tokens where a comma or the end of the list follows. -/
def IsListed (phrase : Parser α) (close : String) (a : α) (ts : List Token) : Prop :=
  ts.head?.any (· ≠ .mark close) = true ∧
    ∀ more text, text = "," ∨ text = close →
      phrase (ts ++ .mark text :: more) = some (a, .mark text :: more)

theorem commaSeparated_tokens {phrase : Parser α} {close : String} (hclose : close ≠ ",")
    {tokens : α → List Token} {phrases : List α} (hne : phrases ≠ [])
    (h : ∀ a ∈ phrases, IsListed phrase close a (tokens a)) (fuel : Nat)
    (hfuel : phrases.length ≤ fuel) (rest : List Token) :
    commaSeparated phrase fuel (commaTokens (phrases.map tokens) ++ .mark close :: rest) =
      some (phrases, .mark close :: rest) := by
  induction phrases generalizing fuel with
  | nil => exact absurd rfl hne
  | cons a as ih =>
    obtain ⟨f, rfl⟩ : ∃ f, fuel = f + 1 := ⟨fuel - 1, by rw [List.length_cons] at hfuel; omega⟩
    obtain ⟨-, ha⟩ := h a List.mem_cons_self
    rw [commaSeparated]
    cases as with
    | nil =>
      refine (bind_eq (ha rest close (.inr rfl))).trans ((bind_eq (peek_eq _)).trans ?_)
      rw [if_neg]
      · rfl
      · intro heq
        exact hclose (Token.mark.inj (Option.some.inj heq))
    | cons b as =>
      have hrest := ih (List.cons_ne_nil b as) (fun c hc => h c (List.mem_cons_of_mem a hc)) f
        (by rw [List.length_cons] at hfuel; omega)
      rw [List.map_cons, List.map_cons, commaTokens, List.append_assoc, List.append_assoc]
      refine (bind_eq (ha _ "," (.inl rfl))).trans ((bind_eq (peek_eq _)).trans ?_)
      rw [List.head?_cons, if_pos rfl]
      refine (bind_eq (mark_eq _ _)).trans ?_
      exact bind_eq hrest

/-- There are at least as many tokens as phrases, but for the end of the list. -/
theorem length_le_commaTokens (lists : List (List Token)) :
    lists.length ≤ (commaTokens lists).length + 1 := by
  induction lists with
  | nil => exact Nat.zero_le _
  | cons ts rest ih =>
    cases rest with
    | nil => exact Nat.succ_le_succ (Nat.zero_le _)
    | cons us rest =>
      rw [commaTokens, List.length_cons, List.length_append, List.length_append,
        List.length_singleton]
      omega

theorem head?_commaTokens {ts : List Token} (h : ts ≠ []) (rest : List (List Token)) :
    (commaTokens (ts :: rest)).head? = ts.head? := by
  cases ts with
  | nil => exact absurd rfl h
  | cons t ts => cases rest <;> rfl

/-- A list is read from its tokens, with the mark that closes it. -/
theorem listUpTo_tokens {phrase : Parser α} {close : String} (hclose : close ≠ ",")
    {tokens : α → List Token} {phrases : List α}
    (h : ∀ a ∈ phrases, IsListed phrase close a (tokens a)) (rest : List Token) :
    listUpTo close phrase (commaTokens (phrases.map tokens) ++ .mark close :: rest) =
      some (phrases, rest) := by
  rw [listUpTo]
  refine (bind_eq (peek_eq _)).trans ?_
  cases phrases with
  | nil =>
    rw [List.map_nil, commaTokens, List.nil_append, List.head?_cons, if_pos rfl]
    exact bind_eq (mark_eq _ _)
  | cons a as =>
    obtain ⟨hhead, -⟩ := h a List.mem_cons_self
    have hne : tokens a ≠ [] := by
      intro hnil
      rw [hnil] at hhead
      cases hhead
    have hcomma := head?_commaTokens hne (as.map tokens)
    obtain ⟨t, ht, hmark⟩ := Option.any_eq_true _ _ |>.mp hhead
    have hfirst : (commaTokens ((a :: as).map tokens) ++ .mark close :: rest).head? = some t := by
      rw [List.head?_append, List.map_cons, hcomma, ht, Option.some_or]
    rw [hfirst, if_neg]
    · have hlength := length_le_commaTokens ((a :: as).map tokens)
      rw [List.length_map] at hlength
      refine (bind_eq (unbounded_eq.trans (commaSeparated_tokens hclose (List.cons_ne_nil a as) h _
        ?_ rest))).trans ?_
      · simp only [List.length_append, List.length_cons] at hlength ⊢
        omega
      · exact bind_eq (mark_eq _ _)
    · intro heq
      rw [Option.some.inj heq] at hmark
      exact absurd hmark (by simp)

/-- An expression begins with something that closes no list. -/
theorem head?_tokens (e : Expr) {close : String} (hclose : close ≠ "(") :
    e.tokens.head?.any (· ≠ .mark close) = true := by
  induction e with
  | binary op left right hleft _ =>
    rw [Expr.tokens, List.append_assoc, List.head?_append]
    cases hhead : left.tokens.head? with
    | none =>
      rw [hhead] at hleft
      cases hleft
    | some t =>
      rw [hhead] at hleft
      exact hleft
  | parens e _ =>
    show decide (Token.mark "(" ≠ .mark close) = true
    rw [decide_eq_true_iff]
    exact fun h => hclose (Token.mark.inj h).symm
  | _ => rfl

theorem isListed_expression {e : Expr} (h : e.Readable 0) {close : String} (hparen : close ≠ "(")
    (hbracket : close ≠ "[") (hop : operator? (.mark close) = none) :
    IsListed wholeExpression close e e.tokens := by
  refine ⟨head?_tokens e hparen, ?_⟩
  rintro more text (rfl | rfl)
  · exact wholeExpression_tokens h (ends_mark more (by decide) (by decide) rfl)
  · exact wholeExpression_tokens h (ends_mark more hparen hbracket hop)

/-! ## Types -/

theorem numberType?_tokens {type : String} (h : type ∈ numberTypes) (rest : List Token) :
    numberType? (typeTokens type ++ rest) = some (some type, rest) := by
  simp only [numberTypes, List.mem_cons, List.not_mem_nil, or_false] at h
  rcases h with rfl | rfl | rfl <;> rfl

theorem numberType_tokens {type : String} (h : type ∈ numberTypes) (rest : List Token) :
    numberType (typeTokens type ++ rest) = some (type, rest) := by
  rw [numberType]
  exact bind_eq (numberType?_tokens h rest)

/-- Nothing but the name of a type begins a type. -/
theorem numberType?_eq_none {t : Token} (h : ∀ x ∈ ["int", "byte", "unsigned"], t ≠ .word x)
    (rest : List Token) : numberType? (t :: rest) = some (none, t :: rest) := by
  rw [numberType?]
  refine (bind_eq (peek_eq _)).trans ?_
  have hne (x : String) (hx : x ∈ ["int", "byte", "unsigned"]) : some t ≠ some (.word x) :=
    fun heq => h x hx (Option.some.inj heq)
  rw [List.head?_cons, if_neg (hne _ (by decide)), if_neg (hne _ (by decide)),
    if_neg (hne _ (by decide))]
  rfl

theorem numberType?_word {x : String} (h : x ∉ ["int", "byte", "unsigned"]) (rest : List Token) :
    numberType? (.word x :: rest) = some (none, .word x :: rest) := by
  refine numberType?_eq_none (fun y hy heq => ?_) rest
  rw [Token.word.inj heq] at h
  exact h hy

/-! ## Simple statements -/

theorem ends_of_mark (text : String) (rest : List Token)
    (h : text ∈ [")", "]", ";", "\x7d", ","]) : Ends (.mark text :: rest) := by
  simp only [List.mem_cons, List.not_mem_nil, or_false] at h
  rcases h with rfl | rfl | rfl | rfl | rfl <;> exact ends_mark rest (by decide) (by decide) rfl

/-- A value with the semicolon after it. -/
theorem value_tokens {e : Expr} (h : e.Readable 0) {f : Expr → Stmt} (rest : List Token) :
    (do
      let value ← wholeExpression
      mark ";"
      return f value : Parser Stmt) (e.tokens ++ .mark ";" :: rest) = some (f e, rest) := by
  refine (bind_eq (wholeExpression_tokens h (ends_of_mark _ _ (by decide)))).trans ?_
  exact bind_eq (mark_eq _ _)

theorem declaration_declare {type x : String} {value : Expr} (h : value.Readable 0)
    (rest : List Token) :
    declaration type x (.mark "=" :: (value.tokens ++ .mark ";" :: rest)) =
      some (.declare type x value, rest) := by
  rw [declaration]
  refine (bind_eq (peek_eq _)).trans ?_
  rw [List.head?_cons, if_neg (by decide)]
  refine (bind_eq (mark_eq _ _)).trans ?_
  exact value_tokens h rest

theorem declaration_table {x : String} {values : List Expr} (h : ∀ v ∈ values, v.Readable 0)
    (rest : List Token) :
    declaration "byte" x (.mark "[" :: .number values.length :: .mark "]" :: .mark "=" ::
      .mark "\x7b" :: (commaTokens (values.map Expr.tokens) ++ .mark "\x7d" :: .mark ";" :: rest)) =
      some (.table x values, rest) := by
  have hlist : listUpTo "\x7d" wholeExpression (commaTokens (values.map Expr.tokens) ++
      .mark "\x7d" :: .mark ";" :: rest) = some (values, .mark ";" :: rest) :=
    listUpTo_tokens (by decide)
      (fun v hv => isListed_expression (h v hv) (by decide) (by decide) rfl) _
  rw [declaration]
  refine (bind_eq (peek_eq _)).trans ?_
  rw [List.head?_cons, if_pos rfl]
  refine (bind_eq (mark_eq _ _)).trans ((bind_eq (number_eq _ _)).trans ?_)
  refine (bind_eq (mark_eq _ _)).trans ((bind_eq (mark_eq _ _)).trans ?_)
  refine (bind_eq (mark_eq _ _)).trans ((bind_eq hlist).trans ((bind_eq (mark_eq _ _)).trans ?_))
  rw [if_pos ⟨rfl, rfl⟩]
  rfl

theorem named_assign {x : String} {value : Expr} (h : value.Readable 0) (rest : List Token) :
    named x (.mark "=" :: (value.tokens ++ .mark ";" :: rest)) = some (.assign x value, rest) :=
  (bind_eq (take_eq _ _)).trans (value_tokens h rest)

theorem named_increase {x : String} {value : Expr} (h : value.Readable 0) (rest : List Token) :
    named x (.mark "+=" :: (value.tokens ++ .mark ";" :: rest)) = some (.increase x value, rest) :=
  (bind_eq (take_eq _ _)).trans (value_tokens h rest)

theorem named_store {x : String} {line column value : Expr} (hline : line.Readable 0)
    (hcolumn : column.Readable 0) (hvalue : value.Readable 0) (rest : List Token) :
    named x (.mark "[" :: (line.tokens ++ .mark "]" :: .mark "[" :: (column.tokens ++
      .mark "]" :: .mark "=" :: (value.tokens ++ .mark ";" :: rest)))) =
      some (.store x line column value, rest) := by
  refine (bind_eq (take_eq _ _)).trans ?_
  refine (bind_eq (wholeExpression_tokens hline (ends_of_mark _ _ (by decide)))).trans ?_
  refine (bind_eq (mark_eq _ _)).trans ((bind_eq (mark_eq _ _)).trans ?_)
  refine (bind_eq (wholeExpression_tokens hcolumn (ends_of_mark _ _ (by decide)))).trans ?_
  refine (bind_eq (mark_eq _ _)).trans ((bind_eq (mark_eq _ _)).trans ?_)
  exact value_tokens hvalue rest

theorem named_call {x : String} {arguments : List Expr} (h : ∀ a ∈ arguments, a.Readable 0)
    (rest : List Token) :
    named x (.mark "(" :: (commaTokens (arguments.map Expr.tokens) ++ .mark ")" :: .mark ";" ::
      rest)) = some (.call x arguments none, rest) := by
  have hlist : listUpTo ")" wholeExpression (commaTokens (arguments.map Expr.tokens) ++
      .mark ")" :: .mark ";" :: rest) = some (arguments, .mark ";" :: rest) :=
    listUpTo_tokens (by decide)
      (fun a ha => isListed_expression (h a ha) (by decide) (by decide) rfl) _
  refine (bind_eq (take_eq _ _)).trans ((bind_eq hlist).trans ?_)
  exact bind_eq (mark_eq _ _)

/-! ## Statements -/

theorem statement_of_type {type : String} (h : type ∈ numberTypes) (f : Nat) (x : String)
    (ts : List Token) :
    statement (f + 1) (typeTokens type ++ .word x :: ts) = declaration type x ts := by
  rw [statement]
  exact (bind_eq (numberType?_tokens h _)).trans (bind_eq (name_eq _ _))

theorem statement_of_name {x : String} (h : IsName x) (f : Nat) (ts : List Token) :
    statement (f + 1) (.word x :: ts) = named x ts := by
  have hne (k : String) (hk : k ∈ keywords) : x ≠ k := fun heq => h.2 (heq ▸ hk)
  have htype : x ∉ ["int", "byte", "unsigned"] := by
    simp only [List.mem_cons, List.not_mem_nil, or_false, not_or]
    exact ⟨hne _ (by decide), hne _ (by decide), hne _ (by decide)⟩
  rw [statement]
  refine (bind_eq (numberType?_word htype ts)).trans ((bind_eq (name_eq _ _)).trans ?_)
  rw [if_neg (hne _ (by decide)), if_neg (hne _ (by decide)), if_neg (hne _ (by decide))]

theorem statement_return {value : Expr} (h : value.Readable 0) (f : Nat) (rest : List Token) :
    statement (f + 1) (.word "return" :: (value.tokens ++ .mark ";" :: rest)) =
      some (.ret value, rest) := by
  rw [statement]
  refine (bind_eq (numberType?_word (by decide) _)).trans ((bind_eq (name_eq _ _)).trans ?_)
  rw [if_neg (by decide), if_neg (by decide), if_pos rfl]
  exact value_tokens h rest

/-- A conditional, when its first body is read and what follows is no other branch. -/
theorem statement_if {condition : Expr} (h : condition.Readable 0) {f : Nat} {yes : Stmt}
    {ts rest : List Token} (hyes : body f ts = some (yes, rest))
    (hrest : rest.head? ≠ some (.word "else")) :
    statement (f + 1) ([.word "if", .mark "("] ++ condition.tokens ++ .mark ")" :: ts) =
      some (.ifThen condition yes, rest) := by
  simp only [List.cons_append, List.nil_append]
  rw [statement]
  refine (bind_eq (numberType?_word (by decide) _)).trans ((bind_eq (name_eq _ _)).trans ?_)
  rw [if_pos rfl]
  refine (bind_eq (mark_eq _ _)).trans ?_
  refine (bind_eq (wholeExpression_tokens h (ends_of_mark _ _ (by decide)))).trans ?_
  refine (bind_eq (mark_eq _ _)).trans ((bind_eq hyes).trans ((bind_eq (peek_eq _)).trans ?_))
  rw [if_neg hrest]
  rfl

theorem statement_ifElse {condition : Expr} (h : condition.Readable 0) {f : Nat} {yes no : Stmt}
    {ts us rest : List Token} (hyes : body f ts = some (yes, .word "else" :: us))
    (hno : body f us = some (no, rest)) :
    statement (f + 1) ([.word "if", .mark "("] ++ condition.tokens ++ .mark ")" :: ts) =
      some (.ifElse condition yes no, rest) := by
  simp only [List.cons_append, List.nil_append]
  rw [statement]
  refine (bind_eq (numberType?_word (by decide) _)).trans ((bind_eq (name_eq _ _)).trans ?_)
  rw [if_pos rfl]
  refine (bind_eq (mark_eq _ _)).trans ?_
  refine (bind_eq (wholeExpression_tokens h (ends_of_mark _ _ (by decide)))).trans ?_
  refine (bind_eq (mark_eq _ _)).trans ((bind_eq hyes).trans ((bind_eq (peek_eq _)).trans ?_))
  rw [List.head?_cons, if_pos rfl]
  exact (bind_eq (expect_eq _ _)).trans (bind_eq hno)

theorem loopHead_tokens (index : String) {bound : Expr} (h : bound.Readable (level .lt + 1))
    (rest : List Token) :
    loopHead (.mark "(" :: .word "int" :: .word index :: .mark "=" :: .number 0 :: .mark ";" ::
      .word index :: .mark "<" :: (bound.tokens ++ .mark ";" :: .word index :: .mark "++" ::
      .mark ")" :: rest)) = some ((index, bound), rest) := by
  rw [loopHead]
  refine (bind_eq (mark_eq _ _)).trans ((bind_eq (expect_eq _ _)).trans ?_)
  refine (bind_eq (name_eq _ _)).trans ((bind_eq (mark_eq _ _)).trans ?_)
  refine (bind_eq (expect_eq _ _)).trans ((bind_eq (mark_eq _ _)).trans ?_)
  refine (bind_eq (expect_eq _ _)).trans ((bind_eq (mark_eq _ _)).trans ?_)
  refine (bind_eq (unbounded_eq.trans (expression_tokens h ?_ (ends_of_mark _ _ (by decide))))).trans ?_
  · rw [List.length_append]
    omega
  refine (bind_eq (mark_eq _ _)).trans ((bind_eq (expect_eq _ _)).trans ?_)
  exact (bind_eq (mark_eq _ _)).trans (bind_eq (mark_eq _ _))

theorem statement_for {f : Nat} {index : String} {bound : Expr} {inner : Stmt}
    {ts us rest : List Token} (hhead : loopHead ts = some ((index, bound), us))
    (hbody : body f us = some (inner, rest)) :
    statement (f + 1) (.word "for" :: ts) = some (.countTo index bound inner, rest) := by
  rw [statement]
  refine (bind_eq (numberType?_word (by decide) _)).trans ((bind_eq (name_eq _ _)).trans ?_)
  rw [if_neg (by decide), if_pos rfl]
  exact (bind_eq hhead).trans (bind_eq hbody)

/-- A statement at the front of a body. -/
theorem statements_of_statement {f : Nat} {ts rest : List Token} {s : Stmt}
    (hhead : ts.head? ≠ some (.mark "\x7d")) (h : statement f ts = some (s, rest)) :
    statements (f + 1) ts = (statements f rest).map fun r => (s :: r.1, r.2) := by
  rw [statements]
  refine (bind_eq (peek_eq _)).trans ?_
  rw [if_neg hhead]
  refine (bind_eq h).trans ?_
  show (statements f rest).bind (fun r => some (s :: r.1, r.2)) = _
  rw [Option.map_eq_bind]
  rfl

theorem head?_mark_ne (text : String) (rest : List Token) :
    (Token.mark text :: rest).head? ≠ some (.word "else") :=
  fun heq => nomatch heq

/-- No statement begins with `else`. -/
theorem head?_statement_ne {s : Stmt} (h : s.Readable) {rest : List Token}
    (hrest : rest.head? ≠ some (.word "else")) :
    (s.tokens ++ rest).head? ≠ some (.word "else") := by
  have hword {x : String} (hx : x ≠ "else") (ts : List Token) :
      (Token.word x :: ts).head? ≠ some (.word "else") :=
    fun heq => hx (Token.word.inj (Option.some.inj heq))
  have hname {x : String} (hx : IsName x) (ts : List Token) :
      (Token.word x :: ts).head? ≠ some (.word "else") := by
    refine hword (fun heq => hx.2 ?_) ts
    rw [heq]
    decide
  induction s generalizing rest with
  | skip => exact hrest
  | blank => exact hrest
  | comment _ => exact hrest
  | seq first more hfirst hmore =>
    rw [Stmt.tokens, List.append_assoc]
    exact hfirst h.1 (hmore h.2 hrest)
  | declare type x value =>
    obtain ⟨htype, -, -⟩ := h
    simp only [numberTypes, List.mem_cons, List.not_mem_nil, or_false] at htype
    rcases htype with rfl | rfl | rfl <;> exact hword (by decide) _
  | table x values => exact hword (by decide) _
  | assign x value => exact hname h.1 _
  | increase x value => exact hname h.1 _
  | store array line column value => exact hname h.1 _
  | call function arguments remark => exact hname h.1 _
  | ifThen condition body _ => exact hword (by decide) _
  | ifElse condition yes no _ _ => exact hword (by decide) _
  | countTo index bound body _ => exact hword (by decide) _
  | ret value => exact hword (by decide) _

/-- Reading some tokens at the front of a body gives some statements, and goes on with the rest. -/
def ReadAs (ts : List Token) (stmts : List Stmt) (fuel : Nat) (rest : List Token) : Prop :=
  ∃ left, fuel - 2 * ts.length ≤ left ∧
    statements fuel (ts ++ rest) = (statements left rest).map fun r => (stmts ++ r.1, r.2)

theorem readAs_nil (fuel : Nat) (rest : List Token) : ReadAs [] [] fuel rest := by
  refine ⟨fuel, Nat.sub_le _ _, ?_⟩
  rw [List.nil_append]
  cases statements fuel rest <;> rfl

theorem ReadAs.append {ts us : List Token} {stmts more : List Stmt} {fuel : Nat}
    {rest : List Token} (h : ReadAs ts stmts fuel (us ++ rest))
    (hmore : ∀ left, fuel - 2 * ts.length ≤ left → ReadAs us more left rest) :
    ReadAs (ts ++ us) (stmts ++ more) fuel rest := by
  obtain ⟨left, hleft, heq⟩ := h
  obtain ⟨left', hleft', heq'⟩ := hmore left hleft
  refine ⟨left', ?_, ?_⟩
  · rw [List.length_append]
    omega
  · rw [List.append_assoc, heq, heq', Option.map_map]
    congr 1
    funext r
    simp

/-- A single statement. -/
theorem readAs_of_statement {ts : List Token} {s : Stmt} {fuel : Nat} {rest : List Token}
    (hfuel : 2 * ts.length ≤ fuel) (hhead : ts.head?.any (· ≠ .mark "\x7d") = true)
    (h : ∀ f, 2 * ts.length ≤ f + 2 → statement (f + 1) (ts ++ rest) = some (s, rest)) :
    ReadAs ts [s] fuel rest := by
  cases ts with
  | nil => cases hhead
  | cons t ts =>
    rw [List.length_cons] at hfuel h
    obtain ⟨f, rfl⟩ : ∃ f, fuel = f + 2 := ⟨fuel - 2, by omega⟩
    refine ⟨f + 1, ?_, statements_of_statement ?_ (h f hfuel)⟩
    · rw [List.length_cons]
      omega
    · intro heq
      have ht : t = .mark "\x7d" := Option.some.inj heq
      rw [ht] at hhead
      simp at hhead

/-- A body in braces. -/
theorem body_of_readAs {ts : List Token} {stmts : List Stmt} (fuel : Nat) (rest : List Token)
    (hfuel : 2 * ts.length + 1 ≤ fuel) (h : ReadAs ts stmts fuel (.mark "\x7d" :: rest)) :
    body (fuel + 1) (.mark "\x7b" :: (ts ++ .mark "\x7d" :: rest)) =
      some (.block stmts, rest) := by
  obtain ⟨left, hleft, heq⟩ := h
  obtain ⟨f, rfl⟩ : ∃ f, left = f + 1 := ⟨left - 1, by omega⟩
  have hend : statements (f + 1) (.mark "\x7d" :: rest) = some ([], .mark "\x7d" :: rest) := by
    rw [statements]
    refine (bind_eq (peek_eq _)).trans ?_
    rw [List.head?_cons, if_pos rfl]
    rfl
  rw [hend, Option.map_some, List.append_nil] at heq
  rw [body]
  exact (bind_eq (mark_eq _ _)).trans ((bind_eq heq).trans (bind_eq (mark_eq _ _)))

/-- A statement is read from its tokens as what is plain of it. -/
theorem readAs_tokens {s : Stmt} (h : s.Readable) {fuel : Nat} {rest : List Token}
    (hfuel : 2 * s.tokens.length ≤ fuel) (hrest : rest.head? ≠ some (.word "else")) :
    ReadAs s.tokens s.plain fuel rest := by
  induction s generalizing fuel rest with
  | skip => exact readAs_nil fuel rest
  | blank => exact readAs_nil fuel rest
  | comment _ => exact readAs_nil fuel rest
  | seq first more hfirst hmore =>
    rw [Stmt.tokens, List.length_append] at hfuel
    refine (hfirst h.1 (by omega) (head?_statement_ne h.2 hrest)).append fun left hleft => ?_
    exact hmore h.2 (by omega) hrest
  | declare type x value =>
    obtain ⟨htype, hx, hvalue⟩ := h
    refine readAs_of_statement hfuel ?_ fun f _ => ?_
    · simp only [numberTypes, List.mem_cons, List.not_mem_nil, or_false] at htype
      rcases htype with rfl | rfl | rfl <;> rfl
    · have hread := (statement_of_type htype f x _).trans (declaration_declare hvalue rest)
      simpa [Stmt.tokens] using hread
  | table x values =>
    refine readAs_of_statement hfuel rfl fun f _ => ?_
    have hread := (statement_of_type (by decide) f x _).trans (declaration_table h.2 rest)
    simpa [Stmt.tokens, typeTokens] using hread
  | assign x value =>
    refine readAs_of_statement hfuel rfl fun f _ => ?_
    have hread := (statement_of_name h.1 f _).trans (named_assign h.2 rest)
    simpa [Stmt.tokens] using hread
  | increase x value =>
    refine readAs_of_statement hfuel rfl fun f _ => ?_
    have hread := (statement_of_name h.1 f _).trans (named_increase h.2 rest)
    simpa [Stmt.tokens] using hread
  | store array line column value =>
    refine readAs_of_statement hfuel rfl fun f _ => ?_
    have hread := (statement_of_name h.1 f _).trans (named_store h.2.1 h.2.2.1 h.2.2.2 rest)
    simpa [Stmt.tokens, Expr.tokens] using hread
  | call function arguments remark =>
    refine readAs_of_statement hfuel rfl fun f _ => ?_
    have hread := (statement_of_name h.1 f _).trans (named_call h.2.1 rest)
    simpa [Stmt.tokens] using hread
  | ifThen condition inner hinner =>
    refine readAs_of_statement hfuel rfl fun f hf => ?_
    simp only [Stmt.tokens, List.length_append, List.length_cons, List.length_nil] at hf
    obtain ⟨g, rfl⟩ : ∃ g, f = g + 1 := ⟨f - 1, by omega⟩
    have hbody := body_of_readAs g rest (by omega)
      (hinner h.2 (by omega) (head?_mark_ne _ _))
    have hread := statement_if h.1 hbody hrest
    simpa [Stmt.tokens] using hread
  | ifElse condition yes no hyes hno =>
    refine readAs_of_statement hfuel rfl fun f hf => ?_
    simp only [Stmt.tokens, List.length_append, List.length_cons, List.length_nil] at hf
    obtain ⟨g, rfl⟩ : ∃ g, f = g + 1 := ⟨f - 1, by omega⟩
    have hbody := body_of_readAs g rest (by omega)
      (hno h.2.2 (by omega) (head?_mark_ne _ _))
    have hfirst := body_of_readAs g (.word "else" :: .mark "\x7b" ::
      (no.tokens ++ .mark "\x7d" :: rest)) (by omega)
      (hyes h.2.1 (by omega) (head?_mark_ne _ _))
    have hread := statement_ifElse h.1 hfirst hbody
    simpa [Stmt.tokens] using hread
  | countTo index bound inner hinner =>
    refine readAs_of_statement hfuel rfl fun f hf => ?_
    simp only [Stmt.tokens, List.length_append, List.length_cons, List.length_nil] at hf
    obtain ⟨g, rfl⟩ : ∃ g, f = g + 1 := ⟨f - 1, by omega⟩
    have hbody := body_of_readAs g rest (by omega)
      (hinner h.2.2 (by omega) (head?_mark_ne _ _))
    have hread := statement_for (loopHead_tokens index h.2.1 _) hbody
    simpa [Stmt.tokens] using hread
  | ret value =>
    refine readAs_of_statement hfuel rfl fun f _ => ?_
    have hread := statement_return h f rest
    simpa [Stmt.tokens] using hread

/-! ## Items -/

theorem isListed_parameter {p : String × String} (htype : p.1 ∈ numberTypes) :
    IsListed parameter ")" p (parameterTokens p) := by
  refine ⟨?_, fun more text _ => ?_⟩
  · rw [parameterTokens]
    simp only [numberTypes, List.mem_cons, List.not_mem_nil, or_false] at htype
    rcases htype with h | h | h <;> rw [h] <;> rfl
  · rw [parameterTokens, List.append_assoc, parameter]
    exact (bind_eq (numberType_tokens htype _)).trans (bind_eq (name_eq _ _))

theorem function_tokens (result x : String) {parameters : List (String × String)} {inner : Stmt}
    (hparameters : ∀ p ∈ parameters, p.1 ∈ numberTypes) (hinner : inner.Readable)
    (rest : List Token) :
    function result x (.mark "(" :: (commaTokens (parameters.map parameterTokens) ++ .mark ")" ::
      .mark "\x7b" :: (inner.tokens ++ .mark "\x7d" :: rest))) =
      some (.function result x parameters (.block inner.plain), rest) := by
  have hlist : listUpTo ")" parameter (commaTokens (parameters.map parameterTokens) ++
      .mark ")" :: .mark "\x7b" :: (inner.tokens ++ .mark "\x7d" :: rest)) =
      some (parameters, .mark "\x7b" :: (inner.tokens ++ .mark "\x7d" :: rest)) :=
    listUpTo_tokens (by decide) (fun p hp => isListed_parameter (hparameters p hp)) _
  have hbody : unbounded body (.mark "\x7b" :: (inner.tokens ++ .mark "\x7d" :: rest)) =
      some (.block inner.plain, rest) := by
    obtain ⟨f, hf⟩ : ∃ f, 2 * (Token.mark "\x7b" :: (inner.tokens ++ .mark "\x7d" :: rest)).length =
        f + 1 := ⟨_, rfl⟩
    rw [unbounded_eq, hf]
    simp only [List.length_cons, List.length_append] at hf
    refine body_of_readAs _ _ ?_ (readAs_tokens hinner ?_ (head?_mark_ne _ _))
    · omega
    · omega
  rw [function]
  exact (bind_eq (mark_eq _ _)).trans ((bind_eq hlist).trans (bind_eq hbody))

theorem item_of_type {type : String} (h : type ∈ numberTypes) (x : String) (ts : List Token) :
    item (typeTokens type ++ .word x :: ts) = definition type x ts := by
  rw [item]
  exact (bind_eq (numberType?_tokens h _)).trans (bind_eq (name_eq _ _))

theorem definition_variable (type x : String) (value : Nat) (rest : List Token) :
    definition type x (.mark "=" :: .number value :: .mark ";" :: rest) =
      some (.variable type x value, rest) := by
  rw [definition]
  refine (bind_eq (peek_eq _)).trans ?_
  exact (bind_eq (mark_eq _ _)).trans ((bind_eq (number_eq _ _)).trans (bind_eq (mark_eq _ _)))

theorem definition_frame (x : String) (rest : List Token) :
    definition "byte" x (.mark "[" :: .number lcdLines :: .mark "]" :: .mark "[" ::
      .word "LCD_COLUMNS" :: .mark "]" :: .mark ";" :: rest) = some (.frame x, rest) := by
  rw [definition]
  refine (bind_eq (peek_eq _)).trans ((bind_eq (mark_eq _ _)).trans ?_)
  refine (bind_eq (expect_eq _ _)).trans ((bind_eq (mark_eq _ _)).trans ?_)
  refine (bind_eq (mark_eq _ _)).trans ((bind_eq (expect_eq _ _)).trans ?_)
  exact (bind_eq (mark_eq _ _)).trans (bind_eq (mark_eq _ _))

theorem definition_function (type x : String) {ts rest : List Token} {i : Item}
    (h : function type x (.mark "(" :: ts) = some (i, rest)) :
    definition type x (.mark "(" :: ts) = some (i, rest) := by
  rw [definition]
  exact (bind_eq (peek_eq _)).trans h

/-- An item that means something is read from its tokens as what is plain of it. -/
theorem item_tokens {i plain : Item} (h : i.Readable) (hplain : i.plain = [plain])
    (rest : List Token) : item (i.tokens ++ rest) = some (plain, rest) := by
  have hkeyword {x : String} (hx : IsName x) {k : String} (hk : k ∈ keywords) : x ≠ k :=
    fun heq => hx.2 (heq ▸ hk)
  cases i with
  | blank => cases hplain
  | comment text => cases hplain
  | header file =>
    obtain rfl := List.singleton_inj.mp hplain
    rw [item]
    exact bind_eq (numberType?_eq_none (t := .header file) (fun _ _ heq => nomatch heq) rest)
  | object type x arguments =>
    obtain rfl := List.singleton_inj.mp hplain
    obtain ⟨htype, hx, harguments⟩ := h
    have hlist : listUpTo ")" wholeExpression (commaTokens (arguments.map Expr.tokens) ++
        .mark ")" :: .mark ";" :: rest) = some (arguments, .mark ";" :: rest) :=
      listUpTo_tokens (by decide)
        (fun a ha => isListed_expression (harguments a ha) (by decide) (by decide) rfl) _
    have hnumber : type ∉ ["int", "byte", "unsigned"] := by
      simp only [List.mem_cons, List.not_mem_nil, or_false, not_or]
      exact ⟨hkeyword htype (by decide), hkeyword htype (by decide), hkeyword htype (by decide)⟩
    simp only [Item.tokens, List.append_assoc, List.cons_append, List.nil_append]
    rw [item]
    refine (bind_eq (numberType?_word hnumber _)).trans ((bind_eq (take_eq _ _)).trans ?_)
    show (if type = "const" then _ else if type = "void" then _ else _ : Parser Item) _ = _
    rw [if_neg (hkeyword htype (by decide)), if_neg (hkeyword htype (by decide))]
    refine (bind_eq (name_eq _ _)).trans ((bind_eq (mark_eq _ _)).trans ?_)
    exact (bind_eq hlist).trans (bind_eq (mark_eq _ _))
  | constant type x value =>
    obtain rfl := List.singleton_inj.mp hplain
    simp only [Item.tokens, List.append_assoc, List.cons_append, List.nil_append]
    rw [item]
    refine (bind_eq (numberType?_word (by decide) _)).trans ((bind_eq (take_eq _ _)).trans ?_)
    refine (bind_eq (numberType_tokens h.1 _)).trans ((bind_eq (name_eq _ _)).trans ?_)
    exact (bind_eq (mark_eq _ _)).trans ((bind_eq (number_eq _ _)).trans (bind_eq (mark_eq _ _)))
  | «variable» type x value =>
    obtain rfl := List.singleton_inj.mp hplain
    have hread := (item_of_type h.1 x _).trans (definition_variable type x value rest)
    simpa [Item.tokens] using hread
  | frame x =>
    obtain rfl := List.singleton_inj.mp hplain
    have hread := (item_of_type (by decide) x _).trans (definition_frame x rest)
    simpa [Item.tokens, typeTokens] using hread
  | function result x parameters inner =>
    obtain rfl := List.singleton_inj.mp hplain
    obtain ⟨hresult, hx, hparameters, hinner⟩ := h
    have hfunction := function_tokens result x (fun p hp => (hparameters p hp).1) hinner rest
    rcases List.mem_cons.mp hresult with rfl | hresult
    · simp only [Item.tokens, List.append_assoc, List.cons_append, List.nil_append] at hfunction ⊢
      rw [item]
      refine (bind_eq (numberType?_word (by decide) _)).trans ((bind_eq (take_eq _ _)).trans ?_)
      exact (bind_eq (name_eq _ _)).trans hfunction
    · have hread := (item_of_type hresult x _).trans (definition_function result x hfunction)
      simpa [Item.tokens] using hread

/-- An item has tokens if it means something. -/
theorem item_cases {i : Item} (h : i.Readable) :
    (i.tokens = [] ∧ i.plain = []) ∨ (i.tokens ≠ [] ∧ ∃ plain, i.plain = [plain]) := by
  cases i with
  | blank => exact .inl ⟨rfl, rfl⟩
  | comment _ => exact .inl ⟨rfl, rfl⟩
  | _ => exact .inr ⟨by simp [Item.tokens], _, rfl⟩

/-- The items of a sketch are read from its tokens as what is plain of them. -/
theorem items_tokens {p : Program} (h : p.Readable) (fuel : Nat)
    (hfuel : p.tokens.length + 1 ≤ fuel) : items fuel p.tokens = some (p.plain, []) := by
  induction p generalizing fuel with
  | nil =>
    obtain ⟨f, rfl⟩ : ∃ f, fuel = f + 1 := ⟨fuel - 1, by omega⟩
    rfl
  | cons i rest ih =>
    have hrest := ih fun j hj => h j (List.mem_cons_of_mem i hj)
    have hi := h i List.mem_cons_self
    have htokens : Program.tokens (i :: rest) = i.tokens ++ Program.tokens rest := List.flatMap_cons
    have hplain : Program.plain (i :: rest) = i.plain ++ Program.plain rest := List.flatMap_cons
    rw [htokens, List.length_append] at hfuel
    rw [htokens, hplain]
    rcases item_cases hi with ⟨hnil, hnone⟩ | ⟨hne, plain, hsome⟩
    · rw [hnil, hnone]
      rw [hnil] at hfuel
      exact hrest fuel (by simpa using hfuel)
    · have hpos := List.length_pos_iff.mpr hne
      obtain ⟨f, rfl⟩ : ∃ f, fuel = f + 1 := ⟨fuel - 1, by omega⟩
      have hhead : (i.tokens ++ Program.tokens rest).head? ≠ none := by
        rw [ne_eq, List.head?_eq_none_iff, List.append_eq_nil_iff]
        exact fun hboth => hne hboth.1
      rw [items]
      refine (bind_eq (peek_eq _)).trans ?_
      rw [if_neg hhead]
      refine (bind_eq (item_tokens hi hsome _)).trans ((bind_eq (hrest f (by omega))).trans ?_)
      rw [hsome]
      rfl

end Grammar

/-- A readable sketch is read from its text as what is plain of it. -/
theorem Program.ofText?_text {p : Program} (h : p.Readable) : ofText? p.text = some p.plain := by
  rw [ofText?, tokens?_text h]
  simp [Grammar.items_tokens h _ (Nat.le_refl _)]

end CharLcd.Sketch
