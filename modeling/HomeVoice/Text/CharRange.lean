/-!
# Sets of characters

A set of characters is a list of ranges of code points, each given by its first and last one.
-/

namespace HomeVoice

/-- A set of characters as ranges of code points, ends included. -/
abbrev CharRanges := List (Nat × Nat)

/-- Whether a character lies in one of the ranges. -/
def CharRanges.contains (ranges : CharRanges) (c : Char) : Bool :=
  ranges.any fun (first, last) => first ≤ c.toNat && c.toNat ≤ last

end HomeVoice
