import HomeVoice.Decimal.Basic
import HomeVoice.Text.Blank

/-!
# Numbers in text

Some devices report numbers as text. `readInteger?` reads a signed integer of any size,
`readNumber?` a number in any of the usual spellings of a binary64 number. Both expect the whole
of the text to be the number; white space around it is for the caller to remove.
-/

namespace HomeVoice.Text

/-- Whether a character is one of the ten ASCII digits. -/
def isDigit (c : Char) : Bool :=
  '0' ≤ c && c ≤ '9'

/-- The value of ASCII digits read after `acc`. -/
def digitsValue (acc : Nat) (cs : List Char) : Nat :=
  cs.foldl (fun n c => 10 * n + (c.toNat - '0'.toNat)) acc

/-- An optional sign, and what follows it. -/
def splitSign : List Char → Bool × List Char
  | '-' :: rest => (true, rest)
  | '+' :: rest => (false, rest)
  | cs => (false, cs)

/-- A signed integer: an optional sign and at least one digit. -/
def readInteger? (cs : List Char) : Option Int :=
  let (negative, digits) := splitSign cs
  if digits.isEmpty || !digits.all isDigit then none
  else
    let n : Int := digitsValue 0 digits
    some (if negative then -n else n)

/-- A 64-bit integer: a signed integer in range. -/
def readInt64? (cs : List Char) : Option Int64 :=
  match readInteger? cs with
  | some n => if Int64.minValue.toInt ≤ n ∧ n ≤ Int64.maxValue.toInt then some (.ofInt n) else none
  | none => none

/-- A natural number with an optional plus sign. -/
def readNatural? (cs : List Char) : Option Nat :=
  let digits := match cs with
    | '+' :: rest => rest
    | cs => cs
  if digits.isEmpty || !digits.all isDigit then none else some (digitsValue 0 digits)

/-- The optional exponent that ends a numeral. -/
def readExponent? : List Char → Option Int
  | [] => some 0
  | c :: rest => if c = 'e' || c = 'E' then readInteger? rest else none

/-- An unsigned numeral: digits with an optional point among, before or after them, and an
optional exponent. -/
def readDecimal? (cs : List Char) : Option Decimal :=
  let whole := cs.takeWhile isDigit
  let afterWhole := cs.dropWhile isDigit
  let (fraction, rest) :=
    match afterWhole with
    | '.' :: tail => (tail.takeWhile isDigit, tail.dropWhile isDigit)
    | _ => ([], afterWhole)
  if whole.isEmpty && fraction.isEmpty then none
  else
    match readExponent? rest with
    | some exponent => some ⟨digitsValue 0 (whole ++ fraction), exponent - fraction.length⟩
    | none => none

/-- A number: a sign and a numeral, or the name of an infinity or of NaN in any letter case. -/
def readNumber? (cs : List Char) : Option Binary64 :=
  let (negative, body) := splitSign cs
  let name := body.map Char.toLower
  if name = ['i', 'n', 'f'] || name = ['i', 'n', 'f', 'i', 'n', 'i', 't', 'y'] then
    some (.infinity negative)
  else if name = ['n', 'a', 'n'] then some .nan
  else (readDecimal? body).map (·.toBinary64 negative)

end HomeVoice.Text
