import HomeVoice.Time.Calendar
import HomeVoice.Text.Number

/-!
# Timestamps

A moment of universal time, to the nanosecond. It is written in two ways: messages of the
protocol have exactly milliseconds, records have no fraction or one of three, six or nine digits,
whichever is the first to be exact.
-/

namespace HomeVoice

/-- Seconds since the beginning of 1970 and nanoseconds after that. In a leap second, which has
the number of the second before it, the nanoseconds are at least `10 ^ 9`. -/
structure Timestamp where
  seconds : Int
  nanoseconds : Nat
  deriving DecidableEq

namespace Timestamp

/-- The decimal digits of a number with zeros in front, to a width. -/
def padded (width n : Nat) : String :=
  let digits := Decimal.digitsOf n
  .ofList (List.replicate (width - digits.length) '0' ++ digits)

/-- A year: four digits, and outside of 0 to 9999 a sign. -/
def yearText (year : Int) : String :=
  if 0 ≤ year ∧ year ≤ 9999 then padded 4 year.toNat
  else (if year < 0 then "-" else "+") ++ padded 4 year.natAbs

/-- Date and time of day to the second. -/
def wholeSeconds (t : Timestamp) : String :=
  let date := CalendarDate.ofDays (t.seconds / 86400)
  let second := (t.seconds % 86400).toNat
  let leap := t.nanoseconds / 1000000000
  yearText date.year ++ "-" ++ padded 2 date.month ++ "-" ++ padded 2 date.day ++ "T"
    ++ padded 2 (second / 3600) ++ ":" ++ padded 2 (second / 60 % 60) ++ ":"
    ++ padded 2 (second % 60 + leap)

/-- The text in messages of the protocol, cut to milliseconds. -/
def protocolText (t : Timestamp) : String :=
  t.wholeSeconds ++ "." ++ padded 3 (t.nanoseconds % 1000000000 / 1000000) ++ "Z"

/-- The text in records. -/
def recordText (t : Timestamp) : String :=
  let fraction := t.nanoseconds % 1000000000
  let digits :=
    if fraction = 0 then ""
    else if fraction % 1000000 = 0 then "." ++ padded 3 (fraction / 1000000)
    else if fraction % 1000 = 0 then "." ++ padded 6 (fraction / 1000)
    else "." ++ padded 9 fraction
  t.wholeSeconds ++ digits ++ "Z"

end Timestamp

end HomeVoice
