import HomeVoice.Json.Basic
import HomeVoice.Text.Number

/-!
# JSON tokens

The first stage of reading JSON text: a text is cut into brackets, separators and the values that
contain no others. `tokens?` gives none for a text with anything else in it.
-/

namespace HomeVoice.Json

/-- A token of JSON text. -/
inductive Token where
  | openArray
  | closeArray
  | openObject
  | closeObject
  | comma
  | colon
  | scalar (value : Json)

/-- The value of a hexadecimal digit of either case. -/
def hexDigit? (c : Char) : Option Nat :=
  if '0' ≤ c && c ≤ '9' then some (c.toNat - '0'.toNat)
  else if 'a' ≤ c && c ≤ 'f' then some (c.toNat - 'a'.toNat + 10)
  else if 'A' ≤ c && c ≤ 'F' then some (c.toNat - 'A'.toNat + 10)
  else none

/-- The number written by four hexadecimal digits. -/
def hexUnit? (a b c d : Char) : Option Nat := do
  return (((← hexDigit? a) * 16 + (← hexDigit? b)) * 16 + (← hexDigit? c)) * 16 + (← hexDigit? d)

/-- The character of a one-letter escape. -/
def shortEscape? : Char → Option Char
  | '"' => some '"'
  | '\\' => some '\\'
  | '/' => some '/'
  | 'b' => some (Char.ofNat 8)
  | 'f' => some (Char.ofNat 12)
  | 'n' => some '\n'
  | 'r' => some '\r'
  | 't' => some '\t'
  | _ => none

/-- Whether a UTF-16 unit is the first of a pair. -/
def isLeadingUnit (u : Nat) : Bool :=
  0xD800 ≤ u && u < 0xDC00

/-- Whether a UTF-16 unit is the second of a pair. -/
def isTrailingUnit (u : Nat) : Bool :=
  0xDC00 ≤ u && u < 0xE000

/-- The characters of a string literal after its opening quote, and what follows its closing
quote. A UTF-16 unit that is half of a pair must have its other half beside it. -/
def scanString : List Char → Option (List Char × List Char)
  | [] => none
  | '"' :: rest => some ([], rest)
  | '\\' :: 'u' :: a :: b :: c :: d :: '\\' :: 'u' :: e :: f :: g :: h :: rest =>
    match hexUnit? a b c d, hexUnit? e f g h with
    | some first, some second =>
      if isTrailingUnit first then none
      else if isLeadingUnit first then
        if isTrailingUnit second then
          (scanString rest).map fun (cs, after) =>
            (Char.ofNat (0x10000 + (first - 0xD800) * 0x400 + (second - 0xDC00)) :: cs, after)
        else none
      else
        (scanString ('\\' :: 'u' :: e :: f :: g :: h :: rest)).map fun (cs, after) =>
          (Char.ofNat first :: cs, after)
    | _, _ => none
  | '\\' :: 'u' :: a :: b :: c :: d :: rest =>
    match hexUnit? a b c d with
    | some unit =>
      if isLeadingUnit unit || isTrailingUnit unit then none
      else (scanString rest).map fun (cs, after) => (Char.ofNat unit :: cs, after)
    | none => none
  | '\\' :: c :: rest =>
    match shortEscape? c with
    | some c' => (scanString rest).map fun (cs, after) => (c' :: cs, after)
    | none => none
  | c :: rest =>
    if c.toNat < 32 then none else (scanString rest).map fun (cs, after) => (c :: cs, after)
  termination_by cs => cs.length

/-- The whole part of a numeral: one zero, or digits that do not begin with zero. -/
def scanWhole : List Char → Option (List Char × List Char)
  | '0' :: rest => some (['0'], rest)
  | cs =>
    let digits := cs.takeWhile Text.isDigit
    if digits.isEmpty then none else some (digits, cs.dropWhile Text.isDigit)

/-- The digits after a point; empty without a point, and none without digits after one. -/
def scanFraction : List Char → Option (List Char × List Char)
  | '.' :: rest =>
    let digits := rest.takeWhile Text.isDigit
    if digits.isEmpty then none else some (digits, rest.dropWhile Text.isDigit)
  | cs => some ([], cs)

/-- An exponent, when there is one. -/
def scanExponent : List Char → Option (Option Int × List Char)
  | [] => some (none, [])
  | c :: rest =>
    if c = 'e' || c = 'E' then
      let (negative, digits) := Text.splitSign rest
      let digits' := digits.takeWhile Text.isDigit
      if digits'.isEmpty then none
      else
        let n : Int := Text.digitsValue 0 digits'
        some (some (if negative then -n else n), digits.dropWhile Text.isDigit)
    else some (none, c :: rest)

/-- Whether an integer is in the signed or the unsigned 64-bit range. -/
def inIntegerRange (n : Int) : Bool :=
  Int64.minValue.toInt ≤ n && n < UInt64.size

/-- The value of a numeral: an integer when it has neither point nor exponent and is in range,
and otherwise the nearest floating-point number, which must be finite. Zero with a minus sign is
a floating-point number. -/
def numberValue? (negative : Bool) (whole fraction : List Char) (exponent : Option Int) :
    Option Json :=
  let n : Nat := Text.digitsValue 0 whole
  let signed : Int := if negative then -n else n
  if fraction.isEmpty && exponent.isNone && inIntegerRange signed && !(negative && n = 0) then
    some (.int signed)
  else
    let d : Decimal := ⟨Text.digitsValue n fraction, exponent.getD 0 - fraction.length⟩
    let x := d.toBinary64 negative
    if x.isFinite then some (.float x) else none

/-- A numeral and what follows it. -/
def scanNumber (cs : List Char) : Option (Json × List Char) := do
  let (negative, cs) := match cs with
    | '-' :: rest => (true, rest)
    | cs => (false, cs)
  let (whole, cs) ← scanWhole cs
  let (fraction, cs) ← scanFraction cs
  let (exponent, cs) ← scanExponent cs
  let value ← numberValue? negative whole fraction exponent
  return (value, cs)

/-- The first token of a text that does not begin with white space, and what follows it. -/
def scanToken : List Char → Option (Token × List Char)
  | '[' :: rest => some (.openArray, rest)
  | ']' :: rest => some (.closeArray, rest)
  | '\x7b' :: rest => some (.openObject, rest)
  | '\x7d' :: rest => some (.closeObject, rest)
  | ',' :: rest => some (.comma, rest)
  | ':' :: rest => some (.colon, rest)
  | '"' :: rest => (scanString rest).map fun (cs, after) => (.scalar (.str (.ofList cs)), after)
  | 'n' :: 'u' :: 'l' :: 'l' :: rest => some (.scalar .null, rest)
  | 't' :: 'r' :: 'u' :: 'e' :: rest => some (.scalar (.bool true), rest)
  | 'f' :: 'a' :: 'l' :: 's' :: 'e' :: rest => some (.scalar (.bool false), rest)
  | cs => (scanNumber cs).map fun (value, after) => (.scalar value, after)

/-- Whether a character is white space between tokens. -/
def isSpace (c : Char) : Bool :=
  c = ' ' || c = '\n' || c = '\r' || c = '\t'

/-- The tokens of a text, at most `fuel` of them, put in front of `acc` in reverse. -/
def tokensFrom (fuel : Nat) (acc : List Token) (cs : List Char) : Option (List Token) :=
  match fuel, cs.dropWhile isSpace with
  | _, [] => some acc.reverse
  | 0, _ => none
  | fuel + 1, cs =>
    match scanToken cs with
    | some (token, rest) => tokensFrom fuel (token :: acc) rest
    | none => none

/-- The tokens of a text. Each takes at least one character. -/
def tokens? (s : String) : Option (List Token) :=
  tokensFrom s.length [] s.toList

end HomeVoice.Json
