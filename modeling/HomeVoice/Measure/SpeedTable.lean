import HomeVoice.Measure.Percent

/-!
# Speed tables

A fan has named speeds, evenly spaced over 0 to 100 percent. With `n` speeds the one at place `i`,
counted from one, stands for `100 * i / n` percent, and a percentage selects the first speed that
reaches it. The speed called `off` stands for zero and has no place in the table.
-/

namespace HomeVoice

/-- The speeds of a fan, from the lowest to the highest. -/
structure SpeedTable where
  speeds : List String
  deriving DecidableEq

namespace SpeedTable

/-- The name of standing still. -/
def off : String := "off"

/-- The speeds of a fan that names none. -/
def standard : SpeedTable := ⟨["low", "medium", "high"]⟩

/-- The table of a list of speeds; the standard one when none is left without `off`. -/
def ofSpeeds (speeds : List String) : SpeedTable :=
  match speeds.filter (· ≠ off) with
  | [] => standard
  | speeds => ⟨speeds⟩

/-- The percentage that a speed stands for. -/
def percentageOf? (t : SpeedTable) (speed : String) : Option Int64 :=
  if speed = off then some 0
  else (t.speeds.idxOf? speed).map fun i =>
    .ofIntClamp (((i + 1) * 100 / t.speeds.length : Nat) : Int)

/-- The place of the first speed that reaches a percentage, counted from one. -/
def step (t : SpeedTable) (percent : Nat) : Nat :=
  (percent * t.speeds.length + 99) / 100

/-- The speed that a percentage selects. -/
def speedFor (t : SpeedTable) (percentage : Int64) : String :=
  match (Percent.clamp percentage.toInt).toInt.toNat with
  | 0 => off
  | percent => (t.speeds[t.step percent - 1]?).getD off

end SpeedTable

end HomeVoice
