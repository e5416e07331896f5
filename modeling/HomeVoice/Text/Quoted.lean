import HomeVoice.Text.NonPrinting

/-!
# Quoted text

Messages show text that came from outside between double quotes. A quote and a backslash inside
are written with a backslash before them, the common controls by a letter, and every other
character that does not print by its code point.
-/

namespace HomeVoice.Text

/-- The digits of a natural number in base sixteen. -/
def hexDigits (n : Nat) : List Char :=
  Nat.toDigits 16 n

/-- How quoted text shows a character. -/
def quotedChar (c : Char) : List Char :=
  if c = '"' then ['\\', '"']
  else if c = '\\' then ['\\', '\\']
  else if c = '\n' then ['\\', 'n']
  else if c = '\r' then ['\\', 'r']
  else if c = '\t' then ['\\', 't']
  else if c = Char.ofNat 0 then ['\\', '0']
  else if isPrinting c then [c]
  else ['\\', 'u', '\x7b'] ++ hexDigits c.toNat ++ ['\x7d']

/-- The text between quotes. -/
def quoted (s : String) : String :=
  .ofList ('"' :: s.toList.flatMap quotedChar ++ ['"'])

end HomeVoice.Text
