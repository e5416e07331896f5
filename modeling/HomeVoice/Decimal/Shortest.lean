import HomeVoice.Decimal.Basic

/-!
# Shortest numerals

The shortest numeral of a binary64 magnitude has the fewest digits among all numerals that read
back to it, and among those it is the nearest. On the grid of each digit count only the two
neighbours of the magnitude need to be tried: if any point of the grid reads back, so does one of
them.
-/

namespace HomeVoice.Decimal

/-- Which of two equally near numerals is taken. -/
inductive Tie where
  | up
  | even
  deriving DecidableEq

/-- The power of ten of the leading digit of a positive rational. -/
def decade (q : Rat) : Int :=
  let k : Int := ((digitsOf q.num.natAbs).length : Int) - (digitsOf q.den).length
  if q < 10 ^ k then k - 1 else k

/-- The nearest numeral with `count` digits that reads back to the magnitude with rank `rank`. -/
def nearestOnGrid? (tie : Tie) (rank count : Nat) : Option Decimal :=
  let value := Binary64.magnitude rank
  let exponent := decade value - count + 1
  let scaled := value / 10 ^ exponent
  let below := scaled.floor.toNat
  let readsBack (digits : Nat) : Bool :=
    Binary64.nearestRank (Decimal.toRat ⟨digits, exponent⟩) = rank
  let rest := scaled - below
  let downIsNearer : Bool :=
    rest < 1 / 2 ∨ (rest = 1 / 2 ∧ tie = .even ∧ below % 2 = 0)
  match readsBack below, readsBack (below + 1) with
  | true, true => some ⟨if downIsNearer then below else below + 1, exponent⟩
  | true, false => some ⟨below, exponent⟩
  | false, true => some ⟨below + 1, exponent⟩
  | false, false => none

/-- The shortest numeral of the magnitude with a given rank. Seventeen digits always suffice. -/
def shortest (tie : Tie) (rank : Nat) : Decimal :=
  if rank = 0 then ⟨0, 0⟩
  else
    match (List.range' 1 17).findSome? (nearestOnGrid? tie rank) with
    | some d => d.normalize
    | none => ⟨0, 0⟩

end HomeVoice.Decimal
