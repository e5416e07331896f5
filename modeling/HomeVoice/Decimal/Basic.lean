import HomeVoice.Binary64.Basic

/-!
# Decimal numerals

A decimal numeral is a natural number of digits with a power of ten. It stands for an exact
rational, and `Decimal.toBinary64` gives the binary64 number nearest to it.
-/

namespace HomeVoice

/-- The numeral `digits · 10 ^ exponent`. -/
structure Decimal where
  digits : Nat
  exponent : Int
  deriving DecidableEq

namespace Decimal

/-- The decimal digits of a natural number, the most significant one first. -/
def digitsOf (n : Nat) : List Char :=
  Nat.toDigits 10 n

/-- The rational that a numeral stands for. -/
def toRat (d : Decimal) : Rat :=
  d.digits * 10 ^ d.exponent

/-- The power of ten of the leading digit. -/
def leadingExponent (d : Decimal) : Int :=
  d.exponent + (digitsOf d.digits).length - 1

/-- The binary64 number of a given sign nearest to a numeral. A numeral of at least `10 ^ 310` is
beyond every finite number and one below `10 ^ -330` nearer to zero than to any other number, so
its power of ten need not be formed. -/
def toBinary64 (negative : Bool) (d : Decimal) : Binary64 :=
  if d.digits = 0 then .zero negative
  else if 310 ≤ d.leadingExponent then .infinity negative
  else if d.leadingExponent < -330 then .zero negative
  else .ofMagnitude negative d.toRat

/-- The numeral without the trailing zeros of its digits, at most `fuel` of them. -/
def stripZeros : (fuel : Nat) → Decimal → Decimal
  | 0, d => d
  | fuel + 1, d =>
    if d.digits ≠ 0 ∧ d.digits % 10 = 0 then stripZeros fuel ⟨d.digits / 10, d.exponent + 1⟩ else d

/-- The same number with no trailing zero among its digits. -/
def normalize (d : Decimal) : Decimal :=
  stripZeros (digitsOf d.digits).length d

end Decimal

end HomeVoice
