import CharLcd.Proofs.Design.Reading

/-!
# Which texts are rows of pixels

A row is a string of pixel characters or an array of pixel items, and nothing else.

- `litChars`, `darkChars`: the characters of pixels.
- `IsPixel`, `isLit`: the items of arrays that are pixels, and whether such a pixel is lit.
- `IsRow`: the ways to write a row.
- `readPixel_eq`, `readPixelItem_eq_ok_iff`: what a character and an item are read as.
- `rows_read_exactly`: which strings and arrays are read and as which rows, what is reported of a
  string that is none, and that a row is read from whatever it is written as.
-/

namespace CharLcd

open Json Reader

/-! ## Ways to write a row -/

/-- The characters of lit pixels. -/
def litChars : List Char := ['#', '1', 'X', 'x']

/-- The characters of dark pixels. -/
def darkChars : List Char := ['.', ' ', '0']

/-- The items that are pixels: booleans, and digits that make a number of at most 255. -/
def IsPixel : Value → Prop
  | .bool _ => True
  | .number digits => (∀ c ∈ digits, c.isDigit = true) ∧ Nat.ofDigitChars 10 digits 0 ≤ 255
  | _ => False

instance : DecidablePred IsPixel
  | .bool _ => .isTrue trivial
  | .number digits => decidable_of_iff
      (digits.all Char.isDigit = true ∧ Nat.ofDigitChars 10 digits 0 ≤ 255)
      (and_congr_left' List.all_eq_true)
  | .null | .string _ | .array _ _ | .object _ _ | .broken _ => .isFalse id

/-- Whether the pixel of an item is lit. -/
def isLit : Value → Bool
  | .bool on => on
  | .number digits => Nat.ofDigitChars 10 digits 0 ≠ 0
  | _ => false

/-- The ways to write a row. An array may hold items of both kinds. -/
inductive IsRow : List Bool → Value → Prop where
  | string {s : String} (h : ∀ c ∈ s.toList, c ∈ litChars ++ darkChars) :
      IsRow (s.toList.map fun c => decide (c ∈ litChars)) (.string (some s))
  | array {items : List Value} (h : ∀ v ∈ items, IsPixel v) :
      IsRow (items.map isLit) (.array items .closed)

/-! ## Pixels -/

/-- What a character is read as. -/
theorem readPixel_eq (c : Char) :
    readPixel c = if c ∈ litChars ++ darkChars then .ok (decide (c ∈ litChars))
      else .error (.problem (.invalidPixel c)) := by
  have hlit : c ∈ litChars ↔ c = '#' ∨ c = '1' ∨ c = 'X' ∨ c = 'x' := by simp [litChars]
  have hdark : c ∈ darkChars ↔ c = '.' ∨ c = ' ' ∨ c = '0' := by simp [darkChars]
  simp only [readPixel, pixelOf?, ← hlit, ← hdark, List.mem_append]
  by_cases hl : c ∈ litChars
  · simp [hl]
  · by_cases hd : c ∈ darkChars
    · simp [hl, hd]
    · simp [hl, hd, refuse]

/-- An item that is read is a boolean or a number below 256. -/
theorem readPixelItem_cases {v : Value} {on : Bool} (h : readPixelItem v = .ok on) :
    v = .bool on ∨ ∃ digits n, v = .number digits ∧ 0 ≤ n ∧ n < 256 ∧ on = decide (n ≠ 0) ∧
      Number.ofSpelling? digits = some (.integer n) := by
  unfold readPixelItem at h
  cases hfault : v.readFault? itemDepth with
  | some fault =>
    rw [hfault] at h
    cases h
  | none =>
    rw [hfault] at h
    simp only [check, refuse, bind, Except.bind, pure, Except.pure] at h
    split at h
    next => exact .inl (congrArg Value.bool (Except.ok.inj h))
    next digits =>
      split at h
      next n hn =>
        split at h
        next hrange =>
          obtain rfl := Except.ok.inj h
          exact .inr ⟨digits, n, rfl, hrange.1, hrange.2, rfl, hn⟩
        next => cases h
      next => cases h
    next => cases h

/-- A number below 256 is read. -/
theorem readPixelItem_number {digits : List Char} {n : Int} (hn : 0 ≤ n ∧ n < 256)
    (h : Number.ofSpelling? digits = some (.integer n)) :
    readPixelItem (.number digits) = .ok (decide (n ≠ 0)) := by
  have hfault : (Value.number digits).readFault? itemDepth = none := by
    rw [Value.readFault?, h]
    rfl
  simp only [readPixelItem, hfault, h, if_pos hn]
  rfl

/-- An item is read when it is a pixel. -/
theorem readPixelItem_eq_ok_iff {v : Value} {cs : List Char} (h : v.Spelled cs) {on : Bool} :
    readPixelItem v = .ok on ↔ IsPixel v ∧ on = isLit v := by
  constructor
  · intro hread
    rcases readPixelItem_cases hread with rfl | ⟨digits, n, rfl, hpos, hlt, rfl, hn⟩
    · exact ⟨trivial, rfl⟩
    · cases h with
      -- the numeral reads as a natural number, so it has neither sign, fraction nor exponent
      | number h =>
        obtain ⟨hdigits, rfl⟩ := h.digits_of_natural hpos hn
        exact ⟨⟨hdigits, by omega⟩, by simp [isLit]⟩
  · rintro ⟨hpixel, rfl⟩
    cases v with
    | bool on => rfl
    | number digits =>
      obtain ⟨hdigits, hle⟩ := hpixel
      have hn := Number.ofSpelling?_digits hdigits (Nat.le_trans hle (by decide))
      rw [readPixelItem_number (by omega) hn]
      simp [isLit]
    | null | string | array | object | broken => exact hpixel.elim

/-! ## Rows -/

theorem readRow_string_eq_ok_iff {s : String} {row : List Bool} :
    readRow (.string (some s)) = .ok row ↔ (∀ c ∈ s.toList, c ∈ litChars ++ darkChars) ∧
      row = s.toList.map fun c => decide (c ∈ litChars) := by
  refine mapM_eq_ok_iff fun c _ on => ?_
  rw [readPixel_eq]
  by_cases hc : c ∈ litChars ++ darkChars
  · rw [if_pos hc, Except.ok.injEq, eq_comm, and_iff_right hc]
  · rw [if_neg hc]
    exact iff_of_false nofun fun h => hc h.1

/-- The first character that is none of a pixel is reported. -/
theorem readRow_string_eq_error {s : String} {before after : List Char} {c : Char}
    (hs : s.toList = before ++ c :: after) (hbefore : ∀ b ∈ before, b ∈ litChars ++ darkChars)
    (hc : c ∉ litChars ++ darkChars) :
    readRow (.string (some s)) = .error (.problem (.invalidPixel c)) := by
  rw [readRow, hs]
  refine mapM_eq_error (fun b hb => ?_) ?_
  · rw [readPixel_eq, if_pos (hbefore b hb)]
    exact ⟨_, rfl⟩
  · rw [readPixel_eq, if_neg hc]

theorem readRow_array_eq_ok_iff {items : List Value} (h : ∀ v ∈ items, ∃ cs, v.Spelled cs)
    {row : List Bool} : readRow (.array items .closed) = .ok row ↔
      (∀ v ∈ items, IsPixel v) ∧ row = items.map isLit := by
  have hitems : items.mapM readPixelItem = .ok row ↔
      (∀ v ∈ items, IsPixel v) ∧ row = items.map isLit := by
    refine mapM_eq_ok_iff fun v hv on => ?_
    obtain ⟨cs, hcs⟩ := h v hv
    exact readPixelItem_eq_ok_iff hcs
  rw [← hitems, readRow, listOf]
  cases items.mapM readPixelItem <;> rfl

/-- A row is read from whatever it is written as. -/
theorem IsRow.document_eq {row : List Bool} {v : Value} {text : String} (h : IsRow row v)
    (htext : Spells text v) : document readRow text = .ok row := by
  rw [document_of_spells _ htext]
  cases h with
  | string h => exact readRow_string_eq_ok_iff.mpr ⟨h, rfl⟩
  | array h =>
    obtain ⟨cs, hcs⟩ := htext.spelled
    exact (readRow_array_eq_ok_iff hcs.items).mpr ⟨h, rfl⟩

/-- The text of a row is one of the ways to write it. -/
theorem isRow_rowText (row : List Bool) : IsRow row (Tree.string (rowText row)).value := by
  have hread := readRow_rowText row
  rw [Tree.value] at hread ⊢
  obtain ⟨hchars, hrow⟩ := readRow_string_eq_ok_iff.mp hread
  have hstring := IsRow.string hchars
  rwa [← hrow] at hstring

/-- A string is read if and only if all its characters are those of pixels, as a row with a pixel
for each of them, and otherwise the first other character is reported; half of a surrogate pair is
no character. An array is read if and only if all its items are pixels, as a row with a pixel for
each of them. Whatever a row is written as, it is read from that, and its own text is one of the
ways. -/
theorem rows_read_exactly :
    (∀ text s, Spells text (.string (some s)) →
      (∀ row, document readRow text = .ok row ↔ (∀ c ∈ s.toList, c ∈ litChars ++ darkChars) ∧
        row = s.toList.map fun c => decide (c ∈ litChars)) ∧
      ∀ before c after, s.toList = before ++ c :: after →
        (∀ b ∈ before, b ∈ litChars ++ darkChars) → c ∉ litChars ++ darkChars →
          document readRow text = .error (.problem (.invalidPixel c))) ∧
    (∀ text, Spells text (.string none) → document readRow text = .error (.fault .malformed)) ∧
    (∀ text items, Spells text (.array items .closed) → ∀ row,
      document readRow text = .ok row ↔ (∀ v ∈ items, IsPixel v) ∧ row = items.map isLit) ∧
    (∀ row v text, IsRow row v → Spells text v → document readRow text = .ok row) ∧
    ∀ row, (rowText row).toList = row.map (fun on => if on then '#' else '.') ∧
      IsRow row (Tree.string (rowText row)).value ∧
      document readRow ((Tree.string (rowText row)).text .compact) = .ok row := by
  refine ⟨fun text s htext => ⟨fun row => ?_, fun before c after hs hbefore hc => ?_⟩,
    fun text htext => ?_, fun text items htext row => ?_,
    fun row v text h htext => h.document_eq htext, fun row => ?_⟩
  · rw [document_of_spells _ htext]
    exact readRow_string_eq_ok_iff
  · rw [document_of_spells _ htext]
    exact readRow_string_eq_error hs hbefore hc
  · rw [document_of_spells _ htext]
    rfl
  · obtain ⟨cs, hcs⟩ := htext.spelled
    rw [document_of_spells _ htext]
    exact readRow_array_eq_ok_iff hcs.items
  · have hrow := isRow_rowText row
    have htext := spells_text Layout.compact_isSpace (.string (rowText row))
    exact ⟨String.toList_ofList, hrow, hrow.document_eq htext⟩

/-- A row as a string, the same row as an array of booleans and numbers, and a string that is no
row. -/
theorem rows_read_exactly_each_way :
    document readRow "\"#1X. 0\"" = .ok [true, true, true, false, false, false] ∧
      document readRow "[true,1,255,false,0,0]" = .ok [true, true, true, false, false, false] ∧
      document readRow "\"#é.?\"" = .error (.problem (.invalidPixel 'é')) := by
  have hspells := spells_text Layout.compact_isSpace
  refine ⟨?_, ?_, ?_⟩
  · have hchars : ∀ c ∈ "#1X. 0".toList, c ∈ litChars ++ darkChars := by
      simp [litChars, darkChars]
    exact ((rows_read_exactly.1 _ _ (hspells (.string "#1X. 0"))).1 _).mpr ⟨hchars, by decide⟩
  · have htext := hspells
      (.array [.bool true, .number 1, .number 255, .bool false, .number 0, .number 0])
    exact (rows_read_exactly.2.2.1 _ _ htext _).mpr ⟨by decide, by decide⟩
  · have hbefore : ∀ c ∈ ['#'], c ∈ litChars ++ darkChars := by simp [litChars]
    exact (rows_read_exactly.1 _ _ (hspells (.string "#é.?"))).2 ['#'] 'é' ['.', '?'] rfl hbefore
      (by decide)

end CharLcd
