import CharLcd.Json.Grammar
import CharLcd.Proofs.Digits

/-!
# The tokens of a text

A text is cut into tokens from left to right. Whatever spells a number or a string in the grammar is
one token, as far as the text does not go on with a number that stands before it.

- `Delimited`: a text that does not go on with a number that stands before it.
- `NumberPart.Reaches`: how far the spelling of a number leads; `reaches_digits` and the lemmas
  after it go through its parts.
- `run_numeral`, `run_quoted`: the tokens of numbers and of strings.
-/

namespace CharLcd.Json

namespace Mode

/-- What one character does when no token waits. -/
theorem run_cons (mode : Mode) (c : Char) (rest : List Char) :
    mode.run [] (c :: rest) = (mode.step c).1 ++ (mode.step c).2.run [] rest := by
  show (mode.step c).2.run ((mode.step c).1.reverseAux []) rest = _
  rw [run_eq_append, List.reverseAux_eq, List.append_nil, List.reverse_reverse]

/-- A character that completes no token. -/
theorem run_cons_of_step {mode mode' : Mode} {c : Char} (h : mode.step c = ([], mode'))
    (rest : List Char) : mode.run [] (c :: rest) = mode'.run [] rest := by
  rw [run_cons, h]
  rfl

end Mode

open Mode

/-! ## Space -/

theorem start_of_isSpace {c : Char} (h : isSpace c = true) : start c = ([], .between) := by
  unfold start
  rw [if_pos h]

theorem run_spaces {space : List Char} (h : Spaces space) (rest : List Char) :
    between.run [] (space ++ rest) = between.run [] rest := by
  induction space with
  | nil => rfl
  | cons c space ih =>
    have hstep : between.step c = ([], between) := start_of_isSpace (h c List.mem_cons_self)
    rw [List.cons_append, run_cons_of_step hstep]
    exact ih fun d hd => h d (List.mem_cons_of_mem c hd)

/-! ## Marks and words -/

/-- A mark between tokens is a token. -/
theorem run_mark {c : Char} {t : Token} (h : start c = ([t], .between)) (rest : List Char) :
    between.run [] (c :: rest) = t :: between.run [] rest := by
  rw [run_cons, step, h]
  rfl

theorem run_null (rest : List Char) :
    between.run [] (['n', 'u', 'l', 'l'] ++ rest) = .null :: between.run [] rest :=
  run_eq_append .between [_] rest

theorem run_true (rest : List Char) :
    between.run [] (['t', 'r', 'u', 'e'] ++ rest) = .bool true :: between.run [] rest :=
  run_eq_append .between [_] rest

theorem run_false (rest : List Char) :
    between.run [] (['f', 'a', 'l', 's', 'e'] ++ rest) = .bool false :: between.run [] rest :=
  run_eq_append .between [_] rest

/-! ## The end of a number -/

/-- A text that does not go on with a number that stands before it. -/
def Delimited (rest : List Char) : Prop :=
  ∀ c ∈ rest.head?, c.isDigit = false ∧ c ≠ '.' ∧ c ≠ 'e' ∧ c ≠ 'E'

theorem delimited_nil : Delimited [] := by
  intro c hc
  cases hc

theorem delimited_cons {c : Char} {rest : List Char}
    (h : c.isDigit = false ∧ c ≠ '.' ∧ c ≠ 'e' ∧ c ≠ 'E') : Delimited (c :: rest) := by
  intro d hd
  cases hd
  exact h

theorem delimited_spaces {space rest : List Char} (h : Spaces space) (hrest : Delimited rest) :
    Delimited (space ++ rest) := by
  cases space with
  | nil => exact hrest
  | cons c space =>
    have hc := h c List.mem_cons_self
    simp only [isSpace, Bool.or_eq_true, decide_eq_true_eq] at hc
    apply delimited_cons
    rcases hc with ((rfl | rfl) | rfl) | rfl <;> decide

/-- A complete number ends where the text does not go on with it. -/
theorem run_number_end {part : NumberPart} (hpart : part.isComplete = true)
    (reversed : List Char) {rest : List Char} (h : Delimited rest) :
    (Mode.number part reversed).run [] rest =
      .number reversed.reverse :: between.run [] rest := by
  cases rest with
  | nil =>
    show (Mode.number part reversed).finish = _
    rw [finish, if_pos hpart]
    rfl
  | cons c rest =>
    obtain ⟨hdigit, hpoint, hmark, hMark⟩ := h c rfl
    have hnext : part.next? c = none := by
      cases part <;> simp [NumberPart.next?, hdigit, hpoint, hmark, hMark] <;> cases hpart
    have hends : part.endsBefore c = true := by
      simp [NumberPart.endsBefore, hpart, hdigit]
    have hstep : (Mode.number part reversed).step c =
        (.number reversed.reverse :: (start c).1, (start c).2) := by
      simp only [step, hnext, hends, if_pos]
    rw [run_cons, run_cons, hstep]
    rfl

/-! ## The parts of a number -/

namespace NumberPart

/-- How far some characters lead in a number. -/
def Reaches (part : NumberPart) (cs : List Char) (part' : NumberPart) : Prop :=
  cs.foldlM next? part = some part'

variable {part part' part'' : NumberPart}

theorem reaches_nil : part.Reaches [] part := rfl

theorem Reaches.append {cs ds : List Char} (h : part.Reaches cs part')
    (h' : part'.Reaches ds part'') : part.Reaches (cs ++ ds) part'' := by
  have hcs : cs.foldlM next? part = some part' := h
  rw [Reaches, List.foldlM_append, hcs]
  exact h'

theorem Reaches.cons {c : Char} {cs : List Char} (h : part.next? c = some part')
    (h' : part'.Reaches cs part'') : part.Reaches (c :: cs) part'' := by
  rw [Reaches, List.foldlM_cons, h]
  exact h'

/-- Further digits do not lead any further. -/
theorem reaches_digits {ds : List Char} (h : ∀ c ∈ ds, c.isDigit = true)
    (hloop : ∀ c : Char, c.isDigit = true → part.next? c = some part) : part.Reaches ds part := by
  induction ds with
  | nil => exact reaches_nil
  | cons c ds ih =>
    exact .cons (hloop c (h c List.mem_cons_self)) (ih fun d hd => h d (List.mem_cons_of_mem c hd))

/-- The first of some digits may lead on. -/
theorem reaches_of_digits {ds : List Char} (h : Digits ds)
    (hfirst : ∀ c : Char, c.isDigit = true → part.next? c = some part')
    (hloop : ∀ c : Char, c.isDigit = true → part'.next? c = some part') :
    part.Reaches ds part' := by
  cases ds with
  | nil => exact absurd rfl h.ne_nil
  | cons c ds =>
    obtain ⟨hc, hds⟩ := List.forall_mem_cons.mp h.isDigit
    exact .cons (hfirst c hc) (reaches_digits hds hloop)

/-- The whole part has a single zero or none in front. -/
theorem reaches_whole {cs : List Char} (h : Digits cs) (hzero : cs.head? = some '0' → cs = ['0']) :
    ∃ part, sign.Reaches cs part ∧ (part = .zero ∨ part = .whole) := by
  cases cs with
  | nil => exact absurd rfl h.ne_nil
  | cons c cs =>
    obtain ⟨hc, hcs⟩ := List.forall_mem_cons.mp h.isDigit
    by_cases hfirst : c = '0'
    · subst hfirst
      rw [hzero rfl]
      exact ⟨.zero, rfl, .inl rfl⟩
    · have hnext : sign.next? c = some .whole := by
        rw [next?, if_neg hfirst, if_pos hc]
      exact ⟨.whole, .cons hnext (reaches_digits hcs fun d hd => if_pos hd), .inr rfl⟩

theorem reaches_fraction (hpart : part = .zero ∨ part = .whole) {cs : List Char}
    (h : Fraction cs) :
    ∃ part', part.Reaches cs part' ∧ (part' = .zero ∨ part' = .whole ∨ part' = .fraction) := by
  cases h with
  | none => exact ⟨part, reaches_nil, hpart.imp_right .inl⟩
  | digits h =>
    have hpoint : part.next? '.' = some .point := by
      rcases hpart with rfl | rfl <;> rfl
    have hdigits : point.Reaches _ .fraction :=
      reaches_of_digits h (fun c hc => if_pos hc) fun c hc => if_pos hc
    exact ⟨.fraction, .cons hpoint hdigits, .inr (.inr rfl)⟩

theorem reaches_exponent (hpart : part = .zero ∨ part = .whole ∨ part = .fraction)
    {cs : List Char} (h : Exponent cs) :
    ∃ part', part.Reaches cs part' ∧ part'.isComplete = true := by
  cases h with
  | none => exact ⟨part, reaches_nil, by rcases hpart with rfl | rfl | rfl <;> rfl⟩
  | @digits mark sign ds hmark hsign h =>
    have hnext : part.next? mark = some .mark := by
      rcases hpart with rfl | rfl | rfl <;> rcases hmark with rfl | rfl <;> rfl
    refine ⟨.exponent, .cons hnext ?_, rfl⟩
    -- a sign is followed by digits as its absence is
    rcases hsign with rfl | rfl | rfl
    · refine reaches_of_digits h (fun c hc => ?_) fun c hc => if_pos hc
      have hplus : ¬ (c = '+' ∨ c = '-') := by
        rintro (rfl | rfl) <;> revert hc <;> decide
      rw [next?, if_neg hplus, if_pos hc]
    · exact .cons rfl (reaches_of_digits h (fun c hc => if_pos hc) fun c hc => if_pos hc)
    · exact .cons rfl (reaches_of_digits h (fun c hc => if_pos hc) fun c hc => if_pos hc)

end NumberPart

/-- What a digit begins is what it is after a sign. -/
theorem start_of_isDigit {c : Char} (h : c.isDigit = true) {part : NumberPart}
    (hpart : NumberPart.sign.next? c = some part) : start c = ([], .number part [c]) := by
  have hspace : ¬ isSpace c = true := by
    intro hspace
    simp only [isSpace, Bool.or_eq_true, decide_eq_true_eq] at hspace
    rcases hspace with ((rfl | rfl) | rfl) | rfl <;> revert h <;> decide
  have hminus : c ≠ '-' := by
    rintro rfl
    revert h
    decide
  unfold start
  rw [if_neg hspace, if_neg hminus]
  by_cases hzero : c = '0'
  · subst hzero
    cases hpart
    rfl
  · rw [NumberPart.next?, if_neg hzero, if_pos h] at hpart
    cases hpart
    rw [if_neg hzero, if_pos h]

theorem run_reaches {part part' : NumberPart} {cs : List Char} (h : part.Reaches cs part')
    (reversed rest : List Char) :
    (Mode.number part reversed).run [] (cs ++ rest) =
      (Mode.number part' (cs.reverse ++ reversed)).run [] rest := by
  induction cs generalizing part reversed with
  | nil =>
    cases h
    rfl
  | cons c cs ih =>
    rw [NumberPart.Reaches, List.foldlM_cons] at h
    obtain ⟨next, hnext, hcs⟩ := Option.bind_eq_some_iff.mp h
    have hstep : (Mode.number part reversed).step c = ([], .number next (c :: reversed)) := by
      simp only [step, hnext]
    rw [List.cons_append, run_cons_of_step hstep, ih hcs, List.reverse_cons, List.append_assoc]
    rfl

/-- A number without a sign is gone through as it is after one. -/
theorem run_reaches_of_isDigit {c : Char} {cs : List Char} (hc : c.isDigit = true)
    {part : NumberPart} (h : NumberPart.sign.Reaches (c :: cs) part) (rest : List Char) :
    between.run [] (c :: cs ++ rest) = (Mode.number part (c :: cs).reverse).run [] rest := by
  rw [NumberPart.Reaches, List.foldlM_cons] at h
  obtain ⟨first, hfirst, hcs⟩ := Option.bind_eq_some_iff.mp h
  have hstep : between.step c = ([], .number first [c]) := start_of_isDigit hc hfirst
  rw [List.cons_append, run_cons_of_step hstep, run_reaches hcs, List.reverse_cons]

/-- The spelling of a number is one token. -/
theorem run_numeral {cs rest : List Char} (h : Numeral cs) (hrest : Delimited rest) :
    between.run [] (cs ++ rest) = .number cs :: between.run [] rest := by
  cases h with
  | @parts sign whole fraction exponent hsign hwhole hzero hfraction hexponent =>
    obtain ⟨_, hreaches, hpart⟩ := NumberPart.reaches_whole hwhole hzero
    obtain ⟨_, hreaches', hpart'⟩ := NumberPart.reaches_fraction hpart hfraction
    obtain ⟨part, hreaches'', hcomplete⟩ := NumberPart.reaches_exponent hpart' hexponent
    have hbody := hreaches.append (hreaches'.append hreaches'')
    suffices hrun : between.run [] (sign ++ (whole ++ (fraction ++ exponent)) ++ rest) =
        (Mode.number part (sign ++ (whole ++ (fraction ++ exponent))).reverse).run [] rest by
      rw [hrun, run_number_end hcomplete _ hrest, List.reverse_reverse]
    rcases hsign with rfl | rfl
    · cases whole with
      | nil => exact absurd rfl hwhole.ne_nil
      | cons c digits =>
        exact run_reaches_of_isDigit (hwhole.isDigit c List.mem_cons_self) hbody rest
    · have hminus : between.step '-' = ([], .number .sign ['-']) := rfl
      rw [List.append_assoc, List.singleton_append, run_cons_of_step hminus, run_reaches hbody,
        List.singleton_append, List.reverse_cons]

/-! ## Strings -/

/-- What a piece adds to the content of a string. -/
def Content.add (s : Content) : Piece → Content
  | .char c => s.push c
  | .unit n => s.pushUnit n

theorem hexValue?_of_hexDigit {c : Char} {n : Nat} (h : HexDigit c n) :
    hexValue? c = some n ∧ c.utf8Size = 1 := by
  obtain ⟨hlt, rfl | rfl⟩ := h
  · exact ⟨hexValue?_digitChar n hlt, utf8Size_digitChar n hlt⟩
  · exact ⟨hexValue?_toUpper_digitChar n hlt, utf8Size_toUpper_digitChar n hlt⟩

/-- One more digit of an escaped code unit. -/
theorem step_code {c : Char} {n bytes value : Nat} (h : HexDigit c n) (hbytes : bytes < 3)
    (s : Content) : (Mode.string (.code bytes (some value)) s).step c =
      ([], .string (.code (bytes + 1) (some (16 * value + n))) s) := by
  obtain ⟨hvalue, hsize⟩ := hexValue?_of_hexDigit h
  have hmore : bytes + 1 < 4 := Nat.succ_lt_succ hbytes
  simp only [step, stepString, hvalue, hsize, if_pos hmore]
  rfl

theorem step_last_code {c : Char} {n value : Nat} (h : HexDigit c n) (s : Content) :
    (Mode.string (.code 3 (some value)) s).step c =
      ([], .string .plain (s.pushUnit (16 * value + n))) := by
  obtain ⟨hvalue, hsize⟩ := hexValue?_of_hexDigit h
  simp only [step, stepString, hvalue, hsize]
  rfl

theorem unescape?_of_mem_escapes : ∀ e ∈ escapes, e.1 ≠ 'u' ∧ unescape? e.1 = some e.2 := by
  decide

/-- Inside a string a piece is added to the content. -/
theorem run_piece {p : Piece} {cs : List Char} (h : p.Spelled cs) (s : Content)
    (rest : List Char) : (Mode.string .plain s).run [] (cs ++ rest) =
      (Mode.string .plain (s.add p)).run [] rest := by
  cases h with
  | @plain c hquote hslash hcontrol =>
    have hstep : (Mode.string .plain s).step c = ([], .string .plain (s.push c)) := by
      simp only [step, stepString, if_neg hquote, if_neg hslash, if_neg (Nat.not_lt.mpr hcontrol)]
    rw [List.singleton_append, run_cons_of_step hstep]
    rfl
  | @escape letter c h =>
    obtain ⟨hletter, hunescape⟩ := unescape?_of_mem_escapes _ h
    have hslash : (Mode.string .plain s).step '\\' = ([], .string .backslash s) := rfl
    have hstep : (Mode.string .backslash s).step letter = ([], .string .plain (s.push c)) := by
      simp only [step, stepString, if_neg hletter, hunescape]
    rw [List.cons_append, run_cons_of_step hslash, List.singleton_append, run_cons_of_step hstep]
    rfl
  | code h₁ h₂ h₃ h₄ =>
    have hslash : (Mode.string .plain s).step '\\' = ([], .string .backslash s) := rfl
    have hunit : (Mode.string .backslash s).step 'u' = ([], .string (.code 0 (some 0)) s) := rfl
    simp only [List.cons_append, List.nil_append]
    rw [run_cons_of_step hslash, run_cons_of_step hunit,
      run_cons_of_step (step_code h₁ (by decide) s), run_cons_of_step (step_code h₂ (by decide) s),
      run_cons_of_step (step_code h₃ (by decide) s), run_cons_of_step (step_last_code h₄ s),
      Nat.mul_zero, Nat.zero_add]
    rfl

theorem run_pieces {ps : List Piece} {cs : List Char} (h : Piece.AllSpelled ps cs) (s : Content)
    (rest : List Char) : (Mode.string .plain s).run [] (cs ++ rest) =
      (Mode.string .plain (ps.foldl Content.add s)).run [] rest := by
  induction h generalizing s with
  | nil => rfl
  | cons hp hps ih => rw [List.append_assoc, run_piece hp, ih, List.foldl_cons]

section

variable {reversed : List Char} {n low : Nat}

theorem isLow_eq_false_of_isHigh (h : Piece.isHigh n = true) : Piece.isLow n = false := by
  simp only [Piece.isHigh, Bool.and_eq_true, decide_eq_true_eq] at h
  simp only [Piece.isLow, Bool.and_eq_false_iff, decide_eq_false_iff_not]
  omega

theorem add_of_isHigh (h : Piece.isHigh n = true) :
    Content.add ⟨some reversed, none⟩ (.unit n) = ⟨some reversed, some n⟩ := by
  have hlow : (decide (0xDC00 ≤ n) && decide (n ≤ 0xDFFF)) = false := isLow_eq_false_of_isHigh h
  have hhigh : 0xD800 ≤ n ∧ n ≤ 0xDBFF := by simpa [Piece.isHigh] using h
  simp only [Content.add, Content.pushUnit, hlow, Bool.false_eq_true, if_false, if_pos hhigh]

theorem add_of_isLow (h : Piece.isLow n = true) :
    Content.add ⟨some reversed, none⟩ (.unit n) = ⟨none, none⟩ :=
  if_pos h

theorem add_of_not (hhigh : ¬ Piece.isHigh n = true) (hlow : ¬ Piece.isLow n = true) :
    Content.add ⟨some reversed, none⟩ (.unit n) = ⟨some (Char.ofNat n :: reversed), none⟩ := by
  have hhigh' : ¬ (0xD800 ≤ n ∧ n ≤ 0xDBFF) := by simpa [Piece.isHigh] using hhigh
  exact (if_neg hlow).trans (if_neg hhigh')

/-- The second half of a pair. -/
theorem add_pair (h : Piece.isLow low = true) :
    Content.add ⟨some reversed, some n⟩ (.unit low) = ⟨some (Piece.pair n low :: reversed), none⟩ :=
  if_pos h

theorem add_of_not_isLow (h : ¬ Piece.isLow low = true) :
    Content.add ⟨some reversed, some n⟩ (.unit low) = ⟨none, none⟩ :=
  if_neg h

end

/-- Once half of a pair stands alone there is no text any more. -/
theorem finish_foldl_add_of_none (ps : List Piece) (high : Option Nat) :
    (ps.foldl Content.add ⟨none, high⟩).finish = none := by
  induction ps generalizing high with
  | nil => cases high <;> rfl
  | cons p ps ih =>
    obtain ⟨high', hadd⟩ : ∃ high', Content.add ⟨none, high⟩ p = ⟨none, high'⟩ := by
      cases p with
      | char c => cases high <;> exact ⟨none, rfl⟩
      | unit n =>
        rw [Content.add, Content.pushUnit]
        cases high <;> dsimp only <;> split <;> try split
        all_goals exact ⟨_, rfl⟩
    rw [List.foldl_cons, hadd, ih]

/-- The content of a string is the text of its pieces. -/
theorem finish_foldl_add (ps : List Piece) (reversed : List Char) :
    (ps.foldl Content.add ⟨some reversed, none⟩).finish =
      (Piece.decode ps).map fun cs => String.ofList (reversed.reverse ++ cs) := by
  induction ps using Piece.decode.induct generalizing reversed with
  | case1 =>
    rw [Piece.decode, Option.map_some, List.append_nil]
    rfl
  | case2 c rest ih =>
    rw [List.foldl_cons, Piece.decode, Option.map_map]
    exact (ih (c :: reversed)).trans (by simp [Function.comp_def])
  | case3 n hhigh low rest hlow ih =>
    rw [List.foldl_cons, List.foldl_cons, add_of_isHigh hhigh, add_pair hlow, ih, Piece.decode,
      if_pos hhigh, if_pos hlow, Option.map_map]
    simp [Function.comp_def]
  | case4 n hhigh low rest hlow =>
    rw [List.foldl_cons, List.foldl_cons, add_of_isHigh hhigh, add_of_not_isLow hlow,
      finish_foldl_add_of_none, Piece.decode, if_pos hhigh, if_neg hlow]
    rfl
  | case5 n rest hhigh hrest =>
    -- the second half does not come, so the string ends or goes on without it
    rw [List.foldl_cons, add_of_isHigh hhigh, Piece.decode, if_pos hhigh]
    · cases rest with
      | nil => rfl
      | cons p rest =>
        cases p with
        | unit low => exact (hrest low rest rfl).elim
        | char c => exact finish_foldl_add_of_none rest none
    · exact hrest
  | case6 n rest hhigh hlow =>
    rw [List.foldl_cons, add_of_isLow hlow, finish_foldl_add_of_none]
    unfold Piece.decode
    rw [if_neg hhigh, if_pos hlow]
    rfl
  | case7 n rest hhigh hlow ih =>
    rw [List.foldl_cons, add_of_not hhigh hlow, ih]
    conv => rhs; unfold Piece.decode
    rw [if_neg hhigh, if_neg hlow, Option.map_map]
    simp [Function.comp_def]

/-- The spelling of a string is one token. -/
theorem run_quoted {content : Option String} {cs : List Char} (h : Quoted content cs)
    (rest : List Char) :
    between.run [] (cs ++ rest) = .string content :: between.run [] rest := by
  cases h with
  | @pieces ps cs h =>
    have hopen : between.step '"' = ([], .string .plain .empty) := rfl
    have hclose (s : Content) : (Mode.string .plain s).step '"' = ([.string s.finish], .between) :=
      rfl
    rw [List.cons_append, run_cons_of_step hopen, List.append_assoc, run_pieces h,
      List.singleton_append, run_cons, hclose, Content.empty, finish_foldl_add]
    rfl

end CharLcd.Json
