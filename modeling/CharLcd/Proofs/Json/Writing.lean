import CharLcd.Json.Grammar
import CharLcd.Json.Tree
import CharLcd.Proofs.Digits

/-!
# Written trees follow the grammar

- `Tree.value`: the value that a tree stands for.
- `Layout.IsSpace`: a layout that adds nothing but space.
- `numeral_toDigits`, `quoted_writeString`: numbers and strings as they are written.
- `spells_text`: the text of a tree spells the value of the tree, whatever the layout.
-/

namespace CharLcd.Json

mutual

/-- The value that a tree stands for. -/
def Tree.value : Tree → Value
  | .null => .null
  | .bool b => .bool b
  | .number n => .number (Nat.toDigits 10 n)
  | .string s => .string (some s)
  | .array items => .array (itemsValues items) .closed
  | .object members => .object (membersValues members) .closed

/-- The values of the items of an array. -/
def itemsValues : List Tree → List Value
  | [] => []
  | item :: items => item.value :: itemsValues items

/-- The keys and values of the members of an object. -/
def membersValues : List (String × Tree) → List (Option String × Value)
  | [] => []
  | (key, value) :: members => (some key, value.value) :: membersValues members

end

theorem itemsValues_eq_map (items : List Tree) : itemsValues items = items.map Tree.value := by
  induction items with
  | nil => rw [itemsValues, List.map_nil]
  | cons item items ih => rw [itemsValues, List.map_cons, ih]

theorem Tree.value_object (members : List (String × Tree)) :
    (Tree.object members).value = .ofMembers (members.map fun m => (m.1, m.2.value)) := by
  have hmap : membersValues members = members.map fun m => (some m.1, m.2.value) := by
    induction members with
    | nil => rw [membersValues, List.map_nil]
    | cons m members ih => rw [membersValues, List.map_cons, ih]
  rw [Tree.value, Value.ofMembers, hmap, List.map_map]
  rfl

/-! ## Numbers -/

theorem numeral_toDigits (n : Nat) : Numeral (Nat.toDigits 10 n) := by
  have hdigits : Digits (Nat.toDigits 10 n) :=
    ⟨Nat.toDigits_ne_nil, fun c hc => isDigit_of_mem_toDigits hc⟩
  have hzero : (Nat.toDigits 10 n).head? = some '0' → Nat.toDigits 10 n = ['0'] := by
    intro hhead
    by_cases hn : n = 0
    · subst hn
      rfl
    · exact absurd hhead (head?_toDigits_ne hn)
  have h := Numeral.parts (.inl rfl) hdigits hzero .none .none
  rwa [List.nil_append, List.append_nil, List.append_nil] at h

/-! ## Strings -/

/-- A control character is written as its number. -/
theorem spelled_control {c : Char} (h : c.toNat < 0x20) : Piece.Spelled (.unit c.toNat)
    ['\\', 'u', '0', '0', Nat.digitChar (c.toNat / 16), Nat.digitChar (c.toNat % 16)] := by
  have hzero : HexDigit '0' 0 := ⟨by decide, .inl rfl⟩
  have hhigh : HexDigit (Nat.digitChar (c.toNat / 16)) (c.toNat / 16) := ⟨by omega, .inl rfl⟩
  have hlow : HexDigit (Nat.digitChar (c.toNat % 16)) (c.toNat % 16) := ⟨by omega, .inl rfl⟩
  have hunit : 16 * (16 * (16 * 0 + 0) + c.toNat / 16) + c.toNat % 16 = c.toNat := by omega
  have hcode := Piece.Spelled.code hzero hzero hhigh hlow
  rwa [hunit] at hcode

/-- A character is written as a piece that stands for it. -/
theorem exists_spelled_escape (c : Char) : ∃ p : Piece, p.Spelled (escape c) ∧
    ∀ ps, Piece.decode (p :: ps) = (Piece.decode ps).map (c :: ·) := by
  unfold escape
  split
  case h_8 hquote hslash _ _ _ _ _ =>
    split
    next h =>
      refine ⟨.unit c.toNat, spelled_control h, fun ps => ?_⟩
      -- a control is no half of a surrogate pair
      have hhigh : ¬ Piece.isHigh c.toNat = true := by
        simp only [Piece.isHigh, Bool.and_eq_true, decide_eq_true_eq]
        omega
      have hlow : ¬ Piece.isLow c.toNat = true := by
        simp only [Piece.isLow, Bool.and_eq_true, decide_eq_true_eq]
        omega
      conv => lhs; unfold Piece.decode
      rw [if_neg hhigh, if_neg hlow, Char.ofNat_toNat]
    next h => exact ⟨.char c, .plain hquote hslash (Nat.not_lt.mp h), fun ps => rfl⟩
  all_goals exact ⟨.char _, .escape (by decide), fun ps => rfl⟩

/-- A string is written as its characters. -/
theorem quoted_writeString (s : String) : Quoted (some s) (writeString s) := by
  obtain ⟨ps, hps, hdecode⟩ : ∃ ps, Piece.AllSpelled ps (s.toList.flatMap escape) ∧
      Piece.decode ps = some s.toList := by
    generalize s.toList = cs
    induction cs with
    | nil => exact ⟨[], .nil, rfl⟩
    | cons c cs ih =>
      obtain ⟨p, hp, hadd⟩ := exists_spelled_escape c
      obtain ⟨ps, hps, hdecode⟩ := ih
      refine ⟨p :: ps, .cons hp hps, ?_⟩
      rw [hadd, hdecode]
      rfl
  have h := Quoted.pieces hps
  rwa [hdecode, Option.map_some, String.ofList_toList] at h

/-! ## Layouts -/

/-- A layout that adds nothing but space. -/
structure Layout.IsSpace (l : Layout) : Prop where
  margin : ∀ depth, Spaces (l.margin depth)
  gap : Spaces l.gap

theorem spaces_nil : Spaces [] := by
  intro c hc
  cases hc

theorem Layout.compact_isSpace : compact.IsSpace where
  margin := fun _ => spaces_nil
  gap := spaces_nil

theorem Layout.pretty_isSpace : pretty.IsSpace where
  margin := by
    intro depth c hc
    rcases List.mem_cons.mp hc with rfl | hc
    · rfl
    · rw [List.eq_of_mem_replicate hc]
      rfl
  gap := by
    intro c hc
    rw [List.mem_singleton.mp hc]
    rfl

/-! ## Trees -/

section

variable {l : Layout}

mutual

/-- The text of a tree is a spelling of its value. -/
theorem spelled_write (hl : l.IsSpace) (t : Tree) (depth : Nat) :
    t.value.Spelled (t.write l depth) := by
  match t with
  | .null =>
    rw [Tree.write, Tree.value]
    exact .null
  | .bool true =>
    rw [Tree.write, Tree.value]
    exact .true
  | .bool false =>
    rw [Tree.write, Tree.value]
    exact .false
  | .number n =>
    rw [Tree.write, Tree.value]
    exact .number (numeral_toDigits n)
  | .string s =>
    rw [Tree.write, Tree.value]
    exact .string (quoted_writeString s)
  | .array [] =>
    rw [Tree.write, Tree.value, itemsValues]
    exact .emptyArray spaces_nil
  | .array (item :: items) =>
    have h := Value.Spelled.array (spelled_writeItems hl items (depth + 1)
      (spelled_write hl item (depth + 1)) (hl.margin depth))
    rw [Tree.write, Tree.value, itemsValues]
    simpa only [List.append_assoc, List.cons_append] using h
  | .object [] =>
    rw [Tree.write, Tree.value, membersValues]
    exact .emptyObject spaces_nil
  | .object ((key, value) :: members) =>
    have h := Value.Spelled.object (spelled_writeMembers hl members (depth + 1) key
      (spelled_write hl value (depth + 1)) (hl.margin depth))
    rw [Tree.write, Tree.value, membersValues]
    simpa only [List.append_assoc, List.cons_append] using h

/-- An item that has been written, and the items after it. -/
theorem spelled_writeItems (hl : l.IsSpace) (items : List Tree) (depth : Nat) {v : Value}
    {cs after : List Char} (h : v.Spelled cs) (hafter : Spaces after) :
    ItemsSpelled (v :: itemsValues items)
      (l.margin depth ++ (cs ++ (writeItems l depth items ++ after))) := by
  match items with
  | [] =>
    rw [itemsValues, writeItems, List.nil_append]
    exact .last (.mk (hl.margin depth) h hafter)
  | item :: items =>
    have hitem := Value.Padded.mk (hl.margin depth) h spaces_nil
    have hitems := ItemsSpelled.more hitem
      (spelled_writeItems hl items depth (spelled_write hl item depth) hafter)
    rw [itemsValues, writeItems]
    simpa only [List.append_assoc, List.cons_append, List.append_nil] using hitems

/-- A member whose value has been written, and the members after it. -/
theorem spelled_writeMembers (hl : l.IsSpace) (members : List (String × Tree)) (depth : Nat)
    (key : String) {v : Value} {cs after : List Char} (h : v.Spelled cs) (hafter : Spaces after) :
    MembersSpelled ((some key, v) :: membersValues members)
      (l.margin depth ++ (writeString key ++ ':' :: (l.gap ++ (cs ++
        (writeMembers l depth members ++ after))))) := by
  have hkey := PaddedKey.mk (hl.margin depth) (quoted_writeString key) spaces_nil
  match members with
  | [] =>
    have hlast := MembersSpelled.last hkey (.mk hl.gap h hafter)
    rw [membersValues, writeMembers]
    simpa only [List.append_assoc, List.nil_append] using hlast
  | (next, value) :: members =>
    have hvalue := Value.Padded.mk hl.gap h spaces_nil
    have hmembers := MembersSpelled.more hkey hvalue
      (spelled_writeMembers hl members depth next (spelled_write hl value depth) hafter)
    rw [membersValues, writeMembers]
    simpa only [List.append_assoc, List.cons_append, List.append_nil, List.nil_append]
      using hmembers

end

/-- The text of a tree spells the value of the tree. -/
theorem spells_text (hl : l.IsSpace) (t : Tree) : Spells (t.text l) t.value := by
  have h := Value.Padded.mk spaces_nil (spelled_write hl t 0) spaces_nil
  rw [List.append_nil, List.nil_append] at h
  rwa [Spells, Tree.text, String.toList_ofList]

end

end CharLcd.Json
