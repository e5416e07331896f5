/-!
# Binary64 numbers

The numbers of the smart-home protocol and of entity attributes are binary floating-point
numbers of 64 bits. Here they are given exactly: a finite number is a sign and the *rank* of its
magnitude among all finite magnitudes, and each operation computes the exact rational result and
rounds it once, to the nearest number and to the even rank when two are equally near.

Ranks make the order of magnitudes the order of natural numbers: rank `0` is zero, rank `1` the
least positive magnitude `2 ^ -1074`, and each binade above `2 ^ -1022` holds `2 ^ 52` ranks.
-/

namespace HomeVoice

/-- The number of magnitudes in a binade: `2 ^ 52`. -/
abbrev Binary64.binadeSize : Nat := 4503599627370496

/-- The number of finite magnitudes. -/
abbrev Binary64.rankCount : Nat := 2047 * binadeSize

/-- A binary64 number. The two zeros differ in their sign; there is one NaN. -/
inductive Binary64 where
  | nan
  | infinity (negative : Bool)
  | finite (negative : Bool) (rank : Fin Binary64.rankCount)
  deriving DecidableEq

namespace Binary64

/-- The magnitude of a rank: whole multiples of `2 ^ -1074` in the lowest two binades, and steps
twice as wide in each binade above them. -/
def magnitude (rank : Nat) : Rat :=
  if rank < binadeSize then rank * 2 ^ (-1074 : Int)
  else (binadeSize + rank % binadeSize : Nat) * 2 ^ ((rank / binadeSize : Nat) - 1075 : Int)

/-! ## Rounding -/

/-- The exponent of the binade of a positive rational: the greatest `k` with `2 ^ k ≤ q`. The
lengths of numerator and denominator determine it up to one. -/
def binade (q : Rat) : Int :=
  let k : Int := (q.num.natAbs.log2 : Int) - (q.den.log2 : Int)
  if q < 2 ^ k then k - 1 else k

/-- The nearest natural number of a rational that is not negative; a half goes to the even one. -/
def nearestEven (q : Rat) : Nat :=
  let below := q.floor.toNat
  let rest := q - below
  if rest < 1 / 2 ∨ (rest = 1 / 2 ∧ below % 2 = 0) then below else below + 1

/-- The rank nearest to a rational that is not negative. Ranks past `rankCount` stand for
magnitudes that are too large. -/
def nearestRank (q : Rat) : Nat :=
  if q = 0 then 0
  else
    let unit := max (-1074) (binade q - 52)
    (unit + 1074).toNat * binadeSize + nearestEven (q / 2 ^ unit)

/-- The number of a given sign nearest to a magnitude. -/
def ofMagnitude (negative : Bool) (q : Rat) : Binary64 :=
  let rank := nearestRank q
  if h : rank < rankCount then .finite negative ⟨rank, h⟩ else .infinity negative

/-- The number nearest to a rational. -/
def ofRat (q : Rat) : Binary64 :=
  if q < 0 then ofMagnitude true (-q) else ofMagnitude false q

/-- The number nearest to an integer. -/
def ofInt (n : Int) : Binary64 :=
  ofRat n

instance (n : Nat) : OfNat Binary64 n :=
  ⟨ofInt n⟩

instance : OfScientific Binary64 where
  ofScientific mantissa negative exponent :=
    ofRat (if negative then mantissa / 10 ^ exponent else mantissa * 10 ^ exponent)

instance : Inhabited Binary64 :=
  ⟨.finite false ⟨0, by decide⟩⟩

/-- The zero of a given sign. -/
def zero (negative : Bool) : Binary64 :=
  .finite negative ⟨0, by decide⟩

/-- The rational value of a finite number. -/
def toRat? : Binary64 → Option Rat
  | .finite negative rank => some (if negative then -magnitude rank else magnitude rank)
  | _ => none

/-- Whether the number is neither infinite nor NaN. -/
def isFinite : Binary64 → Bool
  | .finite .. => true
  | _ => false

/-! ## Order -/

/-- The place of a number in the order of all numbers: its signed rank, with the infinities one
step outside. NaN has no place, and the two zeros share one. -/
def place? : Binary64 → Option Int
  | .nan => none
  | .infinity negative => some (if negative then -(rankCount : Int) else rankCount)
  | .finite negative rank => some (if negative then -(rank.val : Int) else rank.val)

/-- `x` is less than `y`; false when either is NaN. -/
def lt (x y : Binary64) : Bool :=
  match x.place?, y.place? with
  | some a, some b => a < b
  | _, _ => false

/-- `x` is at most `y`; false when either is NaN. -/
def le (x y : Binary64) : Bool :=
  match x.place?, y.place? with
  | some a, some b => a ≤ b
  | _, _ => false

instance : LT Binary64 := ⟨fun x y => x.lt y = true⟩

instance : LE Binary64 := ⟨fun x y => x.le y = true⟩

instance (x y : Binary64) : Decidable (x < y) :=
  inferInstanceAs (Decidable (x.lt y = true))

instance (x y : Binary64) : Decidable (x ≤ y) :=
  inferInstanceAs (Decidable (x.le y = true))

/-- Whether the number is a zero of either sign. -/
def isZero (x : Binary64) : Bool :=
  x.place? = some 0

/-- `x` brought between two bounds. NaN stays NaN, and a zero keeps its sign. -/
def clamp (x lo hi : Binary64) : Binary64 :=
  if x < lo then lo else if hi < x then hi else x

/-! ## Arithmetic -/

/-- The number of the other sign. -/
def neg : Binary64 → Binary64
  | .nan => .nan
  | .infinity negative => .infinity !negative
  | .finite negative rank => .finite (!negative) rank

/-- The sum. An exact zero is positive unless both operands are negative. -/
def add : Binary64 → Binary64 → Binary64
  | .nan, _ => .nan
  | _, .nan => .nan
  | .infinity s, .infinity t => if s = t then .infinity s else .nan
  | .infinity s, .finite _ _ => .infinity s
  | .finite _ _, .infinity t => .infinity t
  | .finite s m, .finite t n =>
    let sum := (if s then -magnitude m else magnitude m) + (if t then -magnitude n else magnitude n)
    if sum = 0 then zero (s && t) else ofRat sum

/-- The difference. -/
def sub (x y : Binary64) : Binary64 :=
  x.add y.neg

/-- The product. -/
def mul : Binary64 → Binary64 → Binary64
  | .nan, _ => .nan
  | _, .nan => .nan
  | .infinity s, .infinity t => .infinity (s != t)
  | .infinity s, .finite t n => if n.val = 0 then .nan else .infinity (s != t)
  | .finite s m, .infinity t => if m.val = 0 then .nan else .infinity (s != t)
  | .finite s m, .finite t n => ofMagnitude (s != t) (magnitude m * magnitude n)

/-- The quotient. A number other than zero over zero is infinite. -/
def div : Binary64 → Binary64 → Binary64
  | .nan, _ => .nan
  | _, .nan => .nan
  | .infinity _, .infinity _ => .nan
  | .infinity s, .finite t _ => .infinity (s != t)
  | .finite s _, .infinity t => zero (s != t)
  | .finite s m, .finite t n =>
    if n.val = 0 then
      if m.val = 0 then .nan else .infinity (s != t)
    else ofMagnitude (s != t) (magnitude m / magnitude n)

instance : Neg Binary64 := ⟨neg⟩
instance : Add Binary64 := ⟨add⟩
instance : Sub Binary64 := ⟨sub⟩
instance : Mul Binary64 := ⟨mul⟩
instance : Div Binary64 := ⟨div⟩

/-! ## Whole numbers -/

/-- The greatest whole number that is at most `x`. -/
def floor : Binary64 → Binary64
  | .finite negative rank =>
    let whole := (if negative then -magnitude rank else magnitude rank).floor
    if whole = 0 then zero negative else ofInt whole
  | x => x

/-- The whole number nearest to `x`; a half goes away from zero. -/
def round : Binary64 → Binary64
  | .finite negative rank => ofMagnitude negative (magnitude rank + 1 / 2).floor
  | x => x

/-- The whole part of `x`, brought between two bounds; NaN gives zero. -/
def truncate (x : Binary64) (lo hi : Int) : Int :=
  match x with
  | .nan => 0
  | .infinity negative => if negative then lo else hi
  | .finite negative rank =>
    let whole := (magnitude rank).floor
    max lo (min hi (if negative then -whole else whole))

/-- The whole part of `x` as a 64-bit integer, the nearest one when it is out of range. -/
def toInt64 (x : Binary64) : Int64 :=
  .ofInt (x.truncate Int64.minValue.toInt Int64.maxValue.toInt)

/-- The nearest 64-bit integer; a half goes away from zero. -/
def roundToInt64 (x : Binary64) : Int64 :=
  x.round.toInt64

/-- The whole part of `x` as a byte, the nearest one when it is out of range. -/
def toByte (x : Binary64) : UInt8 :=
  .ofNat (x.truncate 0 255).toNat

/-- The number nearest to a 64-bit integer. -/
def ofInt64 (n : Int64) : Binary64 :=
  ofInt n.toInt

end Binary64

end HomeVoice
