import CharLcd.Json.Document

/-!
# The grammar of JSON texts

What a text says, as a relation between texts and values: it does not tell how a text is read.

- `Numeral`: the spellings of numbers.
- `Piece`: a part of a string as it is spelled; `Piece.decode` is the text of some pieces, which is
  missing when an escape leaves half of a surrogate pair alone.
- `Value.Spelled`, `Value.Padded`: the spellings of a value, without and with space around it.
- `Value.ofMembers`: an object by its members.
- `Spells`: a text spells a value.
-/

namespace CharLcd.Json

/-- Nothing but space. -/
def Spaces (cs : List Char) : Prop := ∀ c ∈ cs, isSpace c = true

/-! ## Numbers -/

/-- Digits, at least one. -/
structure Digits (cs : List Char) : Prop where
  ne_nil : cs ≠ []
  isDigit : ∀ c ∈ cs, c.isDigit = true

/-- The fraction of a number, if it has one. -/
inductive Fraction : List Char → Prop where
  | none : Fraction []
  | digits {ds : List Char} (h : Digits ds) : Fraction ('.' :: ds)

/-- The exponent of a number, if it has one. -/
inductive Exponent : List Char → Prop where
  | none : Exponent []
  | digits {mark : Char} {sign ds : List Char} (hmark : mark = 'e' ∨ mark = 'E')
      (hsign : sign = [] ∨ sign = ['+'] ∨ sign = ['-']) (h : Digits ds) :
      Exponent (mark :: (sign ++ ds))

/-- The spellings of numbers. There is no needless zero in front. -/
inductive Numeral : List Char → Prop where
  | parts {sign whole fraction exponent : List Char} (hsign : sign = [] ∨ sign = ['-'])
      (hwhole : Digits whole) (hzero : whole.head? = some '0' → whole = ['0'])
      (hfraction : Fraction fraction) (hexponent : Exponent exponent) :
      Numeral (sign ++ (whole ++ (fraction ++ exponent)))

/-! ## Strings -/

/-- The letters that make an escape of a backslash before them, with what it stands for. -/
def escapes : List (Char × Char) := [
  ('"', '"'), ('\\', '\\'), ('/', '/'), ('b', '\x08'), ('f', '\x0c'), ('n', '\n'), ('r', '\r'),
  ('t', '\t')]

/-- A hexadecimal digit, in either case. -/
structure HexDigit (c : Char) (n : Nat) : Prop where
  lt : n < 16
  eq : c = n.digitChar ∨ c = n.digitChar.toUpper

/-- What a part of a string stands for. -/
inductive Piece where
  | char (c : Char)
  /-- A code unit, which may be half of a surrogate pair. -/
  | unit (n : Nat)

namespace Piece

/-- The spellings of a part of a string. -/
inductive Spelled : Piece → List Char → Prop where
  | plain {c : Char} (hquote : c ≠ '"') (hslash : c ≠ '\\') (hcontrol : 0x20 ≤ c.toNat) :
      Spelled (.char c) [c]
  | escape {letter c : Char} (h : (letter, c) ∈ escapes) : Spelled (.char c) ['\\', letter]
  | code {c₁ c₂ c₃ c₄ : Char} {n₁ n₂ n₃ n₄ : Nat} (h₁ : HexDigit c₁ n₁) (h₂ : HexDigit c₂ n₂)
      (h₃ : HexDigit c₃ n₃) (h₄ : HexDigit c₄ n₄) :
      Spelled (.unit (16 * (16 * (16 * n₁ + n₂) + n₃) + n₄)) ['\\', 'u', c₁, c₂, c₃, c₄]

def isHigh (unit : Nat) : Bool := 0xD800 ≤ unit && unit ≤ 0xDBFF

def isLow (unit : Nat) : Bool := 0xDC00 ≤ unit && unit ≤ 0xDFFF

/-- The character of a surrogate pair. -/
def pair (high low : Nat) : Char :=
  Char.ofNat (0x10000 + (high - 0xD800) * 0x400 + (low - 0xDC00))

/-- The text of some pieces. Half of a surrogate pair is no text. -/
def decode : List Piece → Option (List Char)
  | [] => some []
  | .char c :: rest => (decode rest).map (c :: ·)
  | .unit n :: rest =>
    if isHigh n then
      match rest with
      | .unit low :: rest => if isLow low then (decode rest).map (pair n low :: ·) else none
      | _ => none
    else if isLow n then none
    else (decode rest).map (Char.ofNat n :: ·)

/-- The spellings of some pieces one after the other. -/
inductive AllSpelled : List Piece → List Char → Prop where
  | nil : AllSpelled [] []
  | cons {p : Piece} {ps : List Piece} {cs rest : List Char} (hp : p.Spelled cs)
      (hps : AllSpelled ps rest) : AllSpelled (p :: ps) (cs ++ rest)

end Piece

/-- The spellings of a string. -/
inductive Quoted : Option String → List Char → Prop where
  | pieces {ps : List Piece} {cs : List Char} (h : Piece.AllSpelled ps cs) :
      Quoted ((Piece.decode ps).map String.ofList) ('"' :: (cs ++ ['"']))

/-- A key with space around it. -/
inductive PaddedKey (key : Option String) : List Char → Prop where
  | mk {before cs after : List Char} (hbefore : Spaces before) (h : Quoted key cs)
      (hafter : Spaces after) : PaddedKey key (before ++ (cs ++ after))

/-! ## Values -/

mutual

/-- The spellings of a value. -/
inductive Value.Spelled : Value → List Char → Prop where
  | null : Value.Spelled .null ['n', 'u', 'l', 'l']
  | true : Value.Spelled (.bool true) ['t', 'r', 'u', 'e']
  | false : Value.Spelled (.bool false) ['f', 'a', 'l', 's', 'e']
  | number {cs : List Char} (h : Numeral cs) : Value.Spelled (.number cs) cs
  | string {content : Option String} {cs : List Char} (h : Quoted content cs) :
      Value.Spelled (.string content) cs
  | emptyArray {space : List Char} (h : Spaces space) :
      Value.Spelled (.array [] .closed) ('[' :: (space ++ [']']))
  | array {items : List Value} {cs : List Char} (h : ItemsSpelled items cs) :
      Value.Spelled (.array items .closed) ('[' :: (cs ++ [']']))
  | emptyObject {space : List Char} (h : Spaces space) :
      Value.Spelled (.object [] .closed) ('\x7b' :: (space ++ ['\x7d']))
  | object {members : List (Option String × Value)} {cs : List Char}
      (h : MembersSpelled members cs) :
      Value.Spelled (.object members .closed) ('\x7b' :: (cs ++ ['\x7d']))

/-- The spellings of a value with space around it. -/
inductive Value.Padded : Value → List Char → Prop where
  | mk {v : Value} {before cs after : List Char} (hbefore : Spaces before) (h : v.Spelled cs)
      (hafter : Spaces after) : Value.Padded v (before ++ (cs ++ after))

/-- The spellings of the items of an array, with commas between them. -/
inductive ItemsSpelled : List Value → List Char → Prop where
  | last {v : Value} {cs : List Char} (h : v.Padded cs) : ItemsSpelled [v] cs
  | more {v : Value} {items : List Value} {cs rest : List Char} (h : v.Padded cs)
      (hrest : ItemsSpelled items rest) : ItemsSpelled (v :: items) (cs ++ ',' :: rest)

/-- The spellings of the members of an object, with commas between them. -/
inductive MembersSpelled : List (Option String × Value) → List Char → Prop where
  | last {key : Option String} {v : Value} {ks cs : List Char} (hkey : PaddedKey key ks)
      (h : v.Padded cs) : MembersSpelled [(key, v)] (ks ++ ':' :: cs)
  | more {key : Option String} {v : Value} {members : List (Option String × Value)}
      {ks cs rest : List Char} (hkey : PaddedKey key ks) (h : v.Padded cs)
      (hrest : MembersSpelled members rest) :
      MembersSpelled ((key, v) :: members) (ks ++ ':' :: (cs ++ ',' :: rest))

end

/-- The object with some members, whose names are all text. -/
def Value.ofMembers (members : List (String × Value)) : Value :=
  .object (members.map fun m => (some m.1, m.2)) .closed

/-- A text spells a value. -/
def Spells (text : String) (v : Value) : Prop := v.Padded text.toList

end CharLcd.Json
