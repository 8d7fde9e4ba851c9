import CharLcd.Proofs.Digits
import CharLcd.RowByte
import CharLcd.Sketch.Token
import Mathlib.Algebra.Group.Nat.Defs

/-!
# How tokens are spelled

- `Mode.steps`: several characters at once.
- `Spells`, `Closes`, `Divides`: a text is the spelling of some tokens, when a
  separator follows, whatever follows, and whatever stands on both sides.
  `Spells.close`, `Closes.spells` and `Closes.append` put texts together.
- `spells_word`, `spells_number`, `spells_byte`, `closes_char`: single tokens.
-/

namespace CharLcd.Sketch

/-! ## Several characters at once -/

namespace Mode

/-- The tokens that some characters complete, and what the last one belongs to. -/
def steps (mode : Mode) : List Char → Option (List Token × Mode)
  | [] => some ([], mode)
  | c :: rest =>
    (mode.step c).bind fun first =>
      (first.2.steps rest).map fun more => (first.1 ++ more.1, more.2)

theorem steps_cons_iff {mode last : Mode} {c : Char} {rest : List Char} {ts : List Token} :
    mode.steps (c :: rest) = some (ts, last) ↔
      ∃ first next more, mode.step c = some (first, next) ∧ next.steps rest = some (more, last) ∧
        ts = first ++ more := by
  rw [steps, Option.bind_eq_some_iff]
  constructor
  · rintro ⟨⟨first, next⟩, hstep, hmap⟩
    obtain ⟨⟨more, last'⟩, hrest, heq⟩ := Option.map_eq_some_iff.mp hmap
    obtain ⟨rfl, rfl⟩ := Prod.mk.inj heq
    exact ⟨first, next, more, hstep, hrest, rfl⟩
  · rintro ⟨first, next, more, hstep, hrest, rfl⟩
    exact ⟨(first, next), hstep, Option.map_eq_some_iff.mpr ⟨(more, last), hrest, rfl⟩⟩

theorem steps_append {mode mid last : Mode} {text more : List Char} {ts us : List Token}
    (htext : mode.steps text = some (ts, mid)) (hmore : mid.steps more = some (us, last)) :
    mode.steps (text ++ more) = some (ts ++ us, last) := by
  induction text generalizing mode ts with
  | nil =>
    cases htext
    exact hmore
  | cons c text ih =>
    obtain ⟨first, next, rest, hstep, hrest, rfl⟩ := steps_cons_iff.mp htext
    rw [List.append_assoc]
    exact steps_cons_iff.mpr ⟨first, next, rest ++ us, hstep, ih hrest, rfl⟩

/-- Reading a text to its end. -/
theorem run_of_steps {mode last : Mode} {text : List Char} {ts tail : List Token}
    (htext : mode.steps text = some (ts, last)) (hlast : last.finish = some tail) :
    mode.run text = some (ts ++ tail) := by
  induction text generalizing mode ts with
  | nil =>
    cases htext
    exact hlast
  | cons c text ih =>
    obtain ⟨first, next, rest, hstep, hrest, rfl⟩ := steps_cons_iff.mp htext
    simp only [run, hstep, ih hrest, Option.bind_eq_bind, Option.bind_some, Option.pure_def,
      List.append_assoc]

/-- The tokens that a mode still owes, which a separator completes. -/
inductive Owes : Mode → List Token → Prop where
  | between : Owes .between []
  | word {reversed : List Char} {t : Token} (h : wordToken? reversed.reverse = some t) :
    Owes (.word reversed) [t]
  | operator {reversed : List Char} {t : Token} (h : operatorToken? reversed.reverse = some t) :
    Owes (.operator reversed) [t]

/-- A character that does not continue what is being read. -/
def endsBefore (mode : Mode) (c : Char) : Bool :=
  match mode with
  | .word _ => !isWordChar c
  | .operator _ => !isOperatorChar c
  | _ => true

/-- Such a character completes what is owed, and then does what it does between tokens. -/
theorem Owes.steps_cons {mode last : Mode} {owed ts : List Token} (h : mode.Owes owed) {c : Char}
    {rest : List Char} (hc : mode.endsBefore c = true)
    (hrest : Mode.between.steps (c :: rest) = some (ts, last)) :
    mode.steps (c :: rest) = some (owed ++ ts, last) := by
  obtain ⟨first, next, more, hstart, hmore, rfl⟩ := steps_cons_iff.mp hrest
  have hstart : start c = some (first, next) := hstart
  cases h with
  | between => exact hrest
  | word htoken =>
    have hword : isWordChar c = false := by simpa [endsBefore] using hc
    refine steps_cons_iff.mpr ⟨_, next, more, ?_, hmore, (List.append_assoc _ _ _).symm⟩
    simp [step, hword, hstart, htoken]
  | operator htoken =>
    have hoperator : isOperatorChar c = false := by simpa [endsBefore] using hc
    refine steps_cons_iff.mpr ⟨_, next, more, ?_, hmore, (List.append_assoc _ _ _).symm⟩
    simp [step, hoperator, hstart, htoken]

end Mode

/-- A character that belongs to no word and no operator. -/
def isSeparator (c : Char) : Bool := !isWordChar c && !isOperatorChar c

/-- A separator continues nothing that is owed. -/
theorem Mode.endsBefore_of_isSeparator {c : Char} (h : isSeparator c = true) (mode : Mode) :
    mode.endsBefore c = true := by
  obtain ⟨hword, hoperator⟩ := Bool.and_eq_true_iff.mp h
  cases mode with
  | word _ => exact hword
  | operator _ => exact hoperator
  | _ => rfl

/-! ## Texts -/

/-- A text is the spelling of some tokens, if a separator follows. -/
def Spells (text : String) (ts : List Token) : Prop :=
  ∃ done mode owed, Mode.between.steps text.toList = some (done, mode) ∧ mode.Owes owed ∧
    ts = done ++ owed

/-- A text is the spelling of some tokens, whatever follows. -/
def Closes (text : String) (ts : List Token) : Prop :=
  Mode.between.steps text.toList = some (ts, .between)

instance (text : String) (ts : List Token) : Decidable (Closes text ts) := by
  unfold Closes
  exact inferInstance

/-- A text is the spelling of some tokens, whatever stands before and after. -/
def Divides (text : String) (ts : List Token) : Prop :=
  Closes text ts ∧ text.toList.head?.any isSeparator = true

instance (text : String) (ts : List Token) : Decidable (Divides text ts) := by
  unfold Divides
  exact inferInstance

theorem Closes.to_spells {text : String} {ts : List Token} (h : Closes text ts) :
    Spells text ts :=
  ⟨ts, .between, [], h, .between, (List.append_nil ts).symm⟩

/-- A text that begins with a separator closes the one before it. -/
theorem Spells.close {text more : String} {ts us : List Token} (h : Spells text ts)
    (hdivides : Divides more us) : Closes (text ++ more) (ts ++ us) := by
  -- the separator completes what the first text still owes, and then begins the second as usual
  obtain ⟨done, mode, owed, htext, howed, rfl⟩ := h
  obtain ⟨hmore, hseparator⟩ := hdivides
  rw [Closes, String.toList_append]
  rw [Closes] at hmore
  cases hlist : more.toList with
  | nil =>
    rw [hlist] at hseparator
    cases hseparator
  | cons c rest =>
    rw [hlist] at hmore hseparator
    rw [List.append_assoc]
    exact Mode.steps_append htext
      (howed.steps_cons (Mode.endsBefore_of_isSeparator hseparator mode) hmore)

theorem Spells.space {text : String} {ts : List Token} (h : Spells text ts) :
    Closes (text ++ " ") ts := by
  have hspace := h.close (by decide : Divides " " [])
  rwa [List.append_nil] at hspace

theorem Closes.append {text more : String} {ts us : List Token} (h : Closes text ts)
    (hmore : Closes more us) : Closes (text ++ more) (ts ++ us) := by
  rw [Closes, String.toList_append]
  exact Mode.steps_append h hmore

theorem Closes.spells {text more : String} {ts us : List Token} (h : Closes text ts)
    (hmore : Spells more us) : Spells (text ++ more) (ts ++ us) := by
  obtain ⟨done, mode, owed, hmore, howed, rfl⟩ := hmore
  refine ⟨ts ++ done, mode, owed, ?_, howed, (List.append_assoc _ _ _).symm⟩
  rw [String.toList_append]
  exact Mode.steps_append h hmore

/-! ## Words -/

/-- A text that is a word: it does not begin with a digit. -/
def IsWord (x : String) : Prop :=
  x.toList.head?.any (fun c => !c.isDigit) = true ∧ x.toList.all isWordChar = true

instance (x : String) : Decidable (IsWord x) := by
  unfold IsWord
  exact inferInstance

theorem start_of_isWordChar {c : Char} (h : isWordChar c = true) :
    start c = some ([], .word [c]) := by
  have hspace : ¬ (c = ' ' ∨ c = '\n') := by
    rintro (rfl | rfl) <;> exact absurd h (by decide)
  rw [start, if_neg hspace, if_pos h]

theorem steps_word (text reversed : List Char) (h : ∀ c ∈ text, isWordChar c = true) :
    (Mode.word reversed).steps text = some ([], .word (text.reverse ++ reversed)) := by
  induction text generalizing reversed with
  | nil => rfl
  | cons c text ih =>
    have hc := h c List.mem_cons_self
    have hrest := ih (c :: reversed) fun d hd => h d (List.mem_cons_of_mem c hd)
    simp [Mode.steps, Mode.step, hc, hrest]

theorem steps_between_word {text : List Char} (hne : text ≠ [])
    (hall : ∀ c ∈ text, isWordChar c = true) :
    Mode.between.steps text = some ([], .word text.reverse) := by
  cases text with
  | nil => exact absurd rfl hne
  | cons c rest =>
    have hrest := steps_word rest [c] fun d hd => hall d (List.mem_cons_of_mem c hd)
    have hstart := start_of_isWordChar (hall c List.mem_cons_self)
    rw [List.reverse_cons]
    exact Mode.steps_cons_iff.mpr ⟨[], _, [], hstart, hrest, rfl⟩

/-- The characters of words and numbers make one token. -/
theorem spells_of_wordToken? {text : String} {t : Token} (hne : text.toList ≠ [])
    (hall : ∀ c ∈ text.toList, isWordChar c = true) (ht : wordToken? text.toList = some t) :
    Spells text [t] := by
  refine ⟨[], .word text.toList.reverse, [t], steps_between_word hne hall, .word ?_, rfl⟩
  rw [List.reverse_reverse]
  exact ht

namespace IsWord

variable {x : String}

theorem ne_nil (h : IsWord x) : x.toList ≠ [] := by
  intro hnil
  have hhead := h.1
  rw [hnil] at hhead
  cases hhead

theorem wordToken?_eq (h : IsWord x) : wordToken? x.toList = some (.word x) := by
  rw [wordToken?, if_neg, String.ofList_toList]
  have hhead := h.1
  cases hlist : x.toList with
  | nil => exact fun h => nomatch h
  | cons c rest =>
    rw [hlist] at hhead
    simpa using hhead

end IsWord

theorem spells_word {x : String} (h : IsWord x) : Spells x [.word x] :=
  spells_of_wordToken? h.ne_nil (List.all_eq_true.mp h.2) h.wordToken?_eq

/-- A word ends before anything that cannot stand in it. -/
theorem IsWord.close {x more : String} {us : List Token} (hx : IsWord x)
    (hmore : Closes more us) (hhead : more.toList.head?.any (fun c => !isWordChar c) = true) :
    Closes (x ++ more) ([.word x] ++ us) := by
  have hsteps := steps_between_word hx.ne_nil (List.all_eq_true.mp hx.2)
  have howed : Mode.Owes (.word x.toList.reverse) [.word x] := by
    refine .word ?_
    rw [List.reverse_reverse]
    exact hx.wordToken?_eq
  rw [Closes] at hmore ⊢
  rw [String.toList_append]
  cases hlist : more.toList with
  | nil =>
    rw [hlist] at hhead
    cases hhead
  | cons c rest =>
    rw [hlist] at hmore hhead
    have hall := Mode.steps_append hsteps (howed.steps_cons hhead hmore)
    rwa [List.nil_append] at hall

/-! ## Numbers -/

theorem foldlM_decimal (digits : List Char) (h : ∀ c ∈ digits, c.isDigit = true) (n : Nat) :
    digits.foldlM (fun n c => do
      let digit ← Json.hexValue? c
      if digit < 10 then return 10 * n + digit else none) n =
      some (Nat.ofDigitChars 10 digits n) := by
  induction digits generalizing n with
  | nil => rfl
  | cons c digits ih =>
    have hc := h c List.mem_cons_self
    rw [List.foldlM_cons, hexValue?_of_isDigit hc]
    simp only [Option.bind_eq_bind, Option.bind_some, if_pos (toNat_sub_lt_of_isDigit hc)]
    exact ih (fun d hd => h d (List.mem_cons_of_mem c hd)) _

/-- A spelling that does not begin with zero is decimal. -/
theorem literal?_of_head?_ne {digits : List Char} (h : digits.head? ≠ some '0') :
    literal? digits = (digitsValue? 10 digits).map .number := by
  unfold literal?
  split <;> first | rfl | exact absurd rfl h

theorem literal?_toDigits (n : Nat) : literal? (Nat.toDigits 10 n) = some (.number n) := by
  by_cases hn : n = 0
  · subst hn
    rfl
  · rw [literal?_of_head?_ne (head?_toDigits_ne hn), digitsValue?,
      foldlM_decimal _ fun c hc => isDigit_of_mem_toDigits hc, Nat.ofDigitChars_ten_toDigits]
    rfl

theorem isWordChar_of_isDigit {c : Char} (h : c.isDigit = true) : isWordChar c = true := by
  rw [isWordChar, Char.isAlphanum, h, Bool.or_true, Bool.true_or, Bool.true_or]

theorem spells_number (n : Nat) : Spells (toString n) [.number n] := by
  have hlist : (toString n).toList = Nat.toDigits 10 n := by
    rw [Nat.toString_eq_repr, Nat.toList_repr]
  refine spells_of_wordToken? ?_ ?_ ?_
  · rw [hlist]
    exact Nat.toDigits_ne_nil
  · rw [hlist]
    exact fun c hc => isWordChar_of_isDigit (isDigit_of_mem_toDigits hc)
  · rw [hlist, wordToken?, if_pos]
    · exact literal?_toDigits n
    · cases h : Nat.toDigits 10 n with
      | nil => exact absurd h Nat.toDigits_ne_nil
      | cons c rest => exact isDigit_of_mem_toDigits (n := n) (by rw [h]; exact List.mem_cons_self)

/-! ## Bytes -/

theorem isWordChar_toUpper_digitChar : ∀ n < 16, isWordChar n.digitChar.toUpper = true := by
  decide

/-- The last digits of a number are those of its remainder. -/
theorem digitsValue?_digits {base : Nat} (hpos : 0 < base) (hbase : base ≤ 16) (width n : Nat) :
    digitsValue? base (digits base width n) = some (n % base ^ width) := by
  induction width generalizing n with
  | zero => rw [Nat.pow_zero, Nat.mod_one]; rfl
  | succ width ih =>
    have hlast : n % base < base := Nat.mod_lt n hpos
    have hvalue : n % base ^ (width + 1) = base * (n / base % base ^ width) + n % base := by
      rw [Nat.pow_succ, Nat.mul_comm, Nat.mod_mul, Nat.add_comm]
    have hfront := ih (n / base)
    rw [digitsValue?] at hfront ⊢
    rw [digits, List.foldlM_append, hfront, hvalue]
    simp only [Option.bind_eq_bind, Option.bind_some, List.foldlM_cons, List.foldlM_nil,
      hexValue?_toUpper_digitChar _ (Nat.lt_of_lt_of_le hlast hbase), if_pos hlast]
    rfl

theorem isWordChar_of_mem_digits {base : Nat} (hpos : 0 < base) (hbase : base ≤ 16)
    {width n : Nat} {c : Char} (h : c ∈ digits base width n) : isWordChar c = true := by
  induction width generalizing n with
  | zero => exact nomatch h
  | succ width ih =>
    rcases List.mem_append.mp h with h | h
    · exact ih h
    · rw [List.mem_singleton.mp h]
      exact isWordChar_toUpper_digitChar _ (Nat.lt_of_lt_of_le (Nat.mod_lt n hpos) hbase)

theorem literal?_hex {digits : List Char} (h : digits ≠ []) :
    literal? ('0' :: 'x' :: digits) = (digitsValue? 16 digits).map (.byte .hex) := by
  cases digits with
  | nil => exact absurd rfl h
  | cons c rest => rfl

theorem literal?_binary {digits : List Char} (h : digits ≠ []) :
    literal? ('0' :: 'b' :: digits) = (digitsValue? 2 digits).map (.byte .binary) := by
  cases digits with
  | nil => exact absurd rfl h
  | cons c rest => rfl

theorem digits_ne_nil {base width n : Nat} (h : 0 < width) : digits base width n ≠ [] := by
  intro hnil
  have hlength := length_digits base width n
  rw [hnil, List.length_nil] at hlength
  omega

/-- A constant with a prefix. -/
theorem spells_prefixed {text : String} (x : Char) (digits : List Char) {t : Token}
    (htext : text.toList = '0' :: x :: digits) (hx : isWordChar x = true)
    (hdigits : ∀ c ∈ digits, isWordChar c = true) (ht : literal? ('0' :: x :: digits) = some t) :
    Spells text [t] := by
  refine spells_of_wordToken? ?_ ?_ ?_ <;> rw [htext]
  · exact List.cons_ne_nil _ _
  · simp only [List.mem_cons]
    rintro c (rfl | rfl | hc)
    · rfl
    · exact hx
    · exact hdigits c hc
  · exact ht

theorem spells_byte (format : NumberFormat) {value : Nat} (h : value < 256) :
    Spells (byteText format value) [.byte format value] := by
  cases format with
  | hex =>
    refine spells_prefixed 'x' (digits 16 2 value) (by simp [byteText]) (by decide)
      (fun c hc => isWordChar_of_mem_digits (by decide) (by decide) hc) ?_
    have hfits : value < 16 ^ 2 := h
    rw [literal?_hex (digits_ne_nil (by decide)), digitsValue?_digits (by decide) (by decide),
      Nat.mod_eq_of_lt hfits]
    rfl
  | binary =>
    refine spells_prefixed 'b' (digits 2 8 value) (by simp [byteText]) (by decide)
      (fun c hc => isWordChar_of_mem_digits (by decide) (by decide) hc) ?_
    have hfits : value < 2 ^ 8 := h
    rw [literal?_binary (digits_ne_nil (by decide)), digitsValue?_digits (by decide) (by decide),
      Nat.mod_eq_of_lt hfits]
    rfl

/-! ## Character constants -/

/-- A character that can stand between quote marks as it is. -/
def isPlainChar (c : Char) : Bool := c ∉ ['\'', '\\', '\n']

theorem closes_char {c : Char} (h : isPlainChar c = true) :
    Closes (String.ofList ['\'', c, '\'']) [.char c] := by
  have hc : ¬ (c = '\'' ∨ c = '\\' ∨ c = '\n') := by
    simpa [isPlainChar] using h
  have hfirst : Mode.between.step '\'' = some ([], .quote) := by decide
  have hsecond : Mode.quote.step c = some ([], .quoted c) := if_neg hc
  have hlast : (Mode.quoted c).step '\'' = some ([.char c], .between) := by
    rw [Mode.step, if_pos rfl]
  rw [Closes, String.toList_ofList]
  simp [Mode.steps, hfirst, hsecond, hlast]

end CharLcd.Sketch
