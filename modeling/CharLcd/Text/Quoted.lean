import CharLcd.Text.Hidden

/-!
# Quoted text

Text and single characters in quotes, as messages show them.

- `quoted`: a text in double quotes.
- `quotedChar`: a character in single quotes.
- `spell`: how one character is written between quotes.
-/

namespace CharLcd.Text

/-- A code point in lower-case hexadecimal between braces, after `\u`. -/
def spellCode (c : Char) : List Char :=
  ['\\', 'u', '\x7b'] ++ Nat.toDigits 16 c.toNat ++ ['\x7d']

/-- A character between two `quote` marks. The backslash, the quote mark and
four controls have a short form; other hidden characters show their code. -/
def spell (quote c : Char) : List Char :=
  if c = quote ∨ c = '\\' then ['\\', c]
  else if c = '\x00' then ['\\', '0']
  else if c = '\t' then ['\\', 't']
  else if c = '\n' then ['\\', 'n']
  else if c = '\r' then ['\\', 'r']
  else if isHidden c then spellCode c
  else [c]

/-- A text in double quotes. -/
def quoted (s : String) : String :=
  String.ofList ('"' :: s.toList.flatMap (spell '"') ++ ['"'])

/-- A character in single quotes. -/
def quotedChar (c : Char) : String :=
  String.ofList ('\'' :: spell '\'' c ++ ['\''])

end CharLcd.Text
