import HomeVoice.Json.Decode
import HomeVoice.Time.Timestamp

/-!
# Reading timestamps

A timestamp is read from a date, a letter `T` or a space, a time of day and an offset from
universal time, with white space allowed between the parts. Numbers may have fewer digits than
usual, and a year of any length has a sign. Each reader gives what the text begins with and the
rest of it.
-/

namespace HomeVoice.Timestamp

/-- The text without leading white space. -/
def skipBlanks (cs : List Char) : List Char :=
  cs.dropWhile Text.isBlank

/-- At least one and at most `width` digits. -/
def number? (width : Nat) (cs : List Char) : Option (Nat × List Char) :=
  let digits := (cs.take width).takeWhile Text.isDigit
  if digits.isEmpty then none
  else some (Text.digitsValue 0 digits, cs.drop digits.length)

/-- A character that must come next, after white space. -/
def literal? (c : Char) (cs : List Char) : Option (List Char) :=
  match skipBlanks cs with
  | c' :: rest => if c' = c then some rest else none
  | [] => none

/-- A number after white space. -/
def field? (width : Nat) (cs : List Char) : Option (Nat × List Char) :=
  number? width (skipBlanks cs)

/-- A year after white space: at most four digits, or a sign and any number of them. -/
def year? (cs : List Char) : Option (Int × List Char) :=
  match skipBlanks cs with
  | '-' :: rest => (number? rest.length rest).map fun (n, rest) => (-(n : Int), rest)
  | '+' :: rest => (number? rest.length rest).map fun (n, rest) => ((n : Int), rest)
  | cs => (number? 4 cs).map fun (n, rest) => ((n : Int), rest)

/-- Whether a timestamp can have a year. -/
def isYear (year : Int) : Bool :=
  -262143 ≤ year && year ≤ 262142

/-- A date that exists. -/
def date? (cs : List Char) : Option (CalendarDate × List Char) := do
  let (year, cs) ← year? cs
  let (month, cs) ← field? 2 (← literal? '-' cs)
  let (day, cs) ← field? 2 (← literal? '-' cs)
  let date : CalendarDate := ⟨year, month, day⟩
  if date.isValid && isYear year then return (date, cs) else none

/-- The separator of date and time. -/
def separator? : List Char → Option (List Char)
  | 'T' :: rest | 't' :: rest | ' ' :: rest => some rest
  | _ => none

/-- A fraction of a second in nanoseconds; digits after the ninth do not count. -/
def fraction? : List Char → Option (Nat × List Char)
  | '.' :: rest => do
    let (value, after) ← number? 9 rest
    let count := rest.length - after.length
    return (value * Nat.pow 10 (9 - count), after.dropWhile Text.isDigit)
  | cs => some (0, cs)

/-- A time of day: its second, and nanoseconds after that. Second 60 is a leap second. -/
def time? (cs : List Char) : Option ((Nat × Nat) × List Char) := do
  let (hour, cs) ← field? 2 cs
  let (minute, cs) ← field? 2 (← literal? ':' cs)
  let (second, cs) ← field? 2 (← literal? ':' cs)
  let (fraction, cs) ← fraction? cs
  if hour < 24 && minute < 60 && second ≤ 60 then
    let start := hour * 3600 + minute * 60
    if second = 60 then return ((start + 59, 1000000000 + fraction), cs)
    else return ((start + second, fraction), cs)
  else none

/-- The two digits that a text begins with. -/
def twoDigits? : List Char → Option (Nat × List Char)
  | a :: b :: rest =>
    if Text.isDigit a && Text.isDigit b then some (Text.digitsValue 0 [a, b], rest) else none
  | _ => none

/-- The seconds of a signed offset of hours and minutes, less than a day. -/
def signedOffset? (negative : Bool) (cs : List Char) : Option (Int × List Char) := do
  let (hours, cs) ← twoDigits? cs
  let (minutes, cs) ← twoDigits? (cs.dropWhile fun c => c = ':' || Text.isBlank c)
  if hours < 24 && minutes < 60 then
    let seconds : Int := hours * 3600 + minutes * 60
    return (if negative then -seconds else seconds, cs)
  else none

/-- An offset from universal time. -/
def offset? (cs : List Char) : Option (Int × List Char) :=
  if (cs.take 3).map Char.toUpper = ['U', 'T', 'C'] then some (0, cs.drop 3)
  else
    match cs with
    | 'Z' :: rest | 'z' :: rest => some (0, rest)
    | '+' :: rest => signedOffset? false rest
    | '-' :: rest | '−' :: rest => signedOffset? true rest
    | _ => none

/-- The timestamp that a text gives. The year must be one that a timestamp can have both as it is
written and in universal time. -/
def read? (s : String) : Option Timestamp := do
  let (date, cs) ← date? s.toList
  let cs ← separator? cs
  let ((second, nanoseconds), cs) ← time? cs
  let (offset, cs) ← offset? (skipBlanks cs)
  let seconds := date.toDays * 86400 + second - offset
  if (skipBlanks cs).isEmpty && isYear (CalendarDate.ofDays (seconds / 86400)).year then
    return ⟨seconds, nanoseconds⟩
  else none

/-- A timestamp in JSON. -/
def decode : Decoder Timestamp :=
  Decoder.string.filterMap fun s =>
    match read? s with
    | some t => .ok t
    | none => .error (.refused "not a timestamp")

end HomeVoice.Timestamp
