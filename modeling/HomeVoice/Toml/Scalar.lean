import HomeVoice.Json.Token

/-!
# TOML scalars

Strings on one line, truth values, decimal integers of 64 bits and floating-point numbers. Digits
may be grouped by underscores that stand between digits.
-/

namespace HomeVoice.Toml

/-- Whether a character may stand in a string or a comment. -/
def isText (c : Char) : Bool :=
  c = '\t' || (32 ≤ c.toNat && c.toNat ≠ 127)

/-- The character of a one-letter escape. -/
def shortEscape? : Char → Option Char
  | '"' => some '"'
  | '\\' => some '\\'
  | 'b' => some (Char.ofNat 8)
  | 't' => some '\t'
  | 'n' => some '\n'
  | 'f' => some (Char.ofNat 12)
  | 'r' => some '\r'
  | _ => none

/-- The character with a code point. -/
def char? (n : Nat) : Option Char :=
  if n.isValidChar then some (Char.ofNat n) else none

/-- A string with escapes after its opening quote, and what follows its closing quote. -/
def scanBasic : List Char → Option (List Char × List Char)
  | [] => none
  | '"' :: rest => some ([], rest)
  | '\\' :: 'u' :: a :: b :: c :: d :: rest => do
    let x ← char? (← Json.hexUnit? a b c d)
    let (cs, after) ← scanBasic rest
    return (x :: cs, after)
  | '\\' :: 'U' :: a :: b :: c :: d :: e :: f :: g :: h :: rest => do
    let x ← char? ((← Json.hexUnit? a b c d) * 65536 + (← Json.hexUnit? e f g h))
    let (cs, after) ← scanBasic rest
    return (x :: cs, after)
  | '\\' :: c :: rest => do
    let x ← shortEscape? c
    let (cs, after) ← scanBasic rest
    return (x :: cs, after)
  | c :: rest =>
    if isText c then (scanBasic rest).map fun (cs, after) => (c :: cs, after) else none

/-- A string without escapes after its opening apostrophe, and what follows its closing one. -/
def scanLiteral : List Char → Option (List Char × List Char)
  | [] => none
  | '\'' :: rest => some ([], rest)
  | c :: rest =>
    if isText c then (scanLiteral rest).map fun (cs, after) => (c :: cs, after) else none

/-- Digits without the underscores between them. -/
def ungrouped? : List Char → Option (List Char)
  | [] => none
  | [c] => if Text.isDigit c then some [c] else none
  | c :: '_' :: rest => if Text.isDigit c then (ungrouped? rest).map (c :: ·) else none
  | c :: rest => if Text.isDigit c then (ungrouped? rest).map (c :: ·) else none

/-- Digits of a whole part, which begin with zero only when that is all. -/
def whole? (cs : List Char) : Option (List Char) :=
  match ungrouped? cs with
  | some ['0'] => some ['0']
  | some ('0' :: _) => none
  | digits => digits

/-- Whether a character ends the whole part of a floating-point number. -/
def endsWhole (c : Char) : Bool :=
  c = '.' || c = 'e' || c = 'E'

/-- The exponent that ends a floating-point number. -/
def exponent? : List Char → Option Int
  | [] => some 0
  | _ :: rest =>
    let (negative, digits) := Text.splitSign rest
    (ungrouped? digits).map fun digits =>
      let n : Int := Text.digitsValue 0 digits
      if negative then -n else n

/-- The value of a number: an integer when it has neither point nor exponent. -/
def number? (cs : List Char) : Option Json := do
  let (negative, cs) := Text.splitSign cs
  let whole ← whole? (cs.takeWhile fun c => !endsWhole c)
  match cs.dropWhile fun c => !endsWhole c with
  | [] =>
    let n : Int := Text.digitsValue 0 whole
    let n := if negative then -n else n
    if Json.fitsInt64 n then some (.int n) else none
  | rest =>
    let (fraction, rest) ← match rest with
      | '.' :: tail => do
        let fraction ← ungrouped? (tail.takeWhile fun c => !endsWhole c)
        some (fraction, tail.dropWhile fun c => !endsWhole c)
      | rest => some ([], rest)
    if rest.head? = some '.' then none
    let exponent ← exponent? rest
    let d : Decimal := ⟨Text.digitsValue 0 (whole ++ fraction), exponent - fraction.length⟩
    let x := d.toBinary64 negative
    if x.isFinite then some (.float x) else none

/-- Whether a character can stand in a value without quotes. -/
def isWord (c : Char) : Bool :=
  c.isAlphanum || c = '_' || c = '+' || c = '-' || c = '.'

/-- The value of a word without quotes. -/
def word? (cs : List Char) : Option Json :=
  if cs = ['t', 'r', 'u', 'e'] then some (.bool true)
  else if cs = ['f', 'a', 'l', 's', 'e'] then some (.bool false)
  else number? cs

end HomeVoice.Toml
