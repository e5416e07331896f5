import HomeVoice.Json.Decode
import HomeVoice.Json.Token

/-!
# Identifiers of 128 bits

Messages, audit events and request contexts are named by 128-bit identifiers, written as 32
hexadecimal digits in five groups.
-/

namespace HomeVoice

/-- A 128-bit identifier. -/
structure Uuid where
  bits : BitVec 128
  deriving DecidableEq

namespace Uuid

/-- The identifier with no bit set. -/
def zero : Uuid := ⟨0⟩

/-- The number of digits in each of the five groups. -/
def groupLengths : List Nat := [8, 4, 4, 4, 12]

/-- The 32 digits of an identifier. -/
def digits (u : Uuid) : List Char :=
  (List.range 32).reverse.map fun i => Nat.digitChar (u.bits.toNat / Nat.pow 16 i % 16)

/-- Characters cut into groups of the given lengths. -/
def groups : List Nat → List Char → List (List Char)
  | [], _ => []
  | n :: lengths, cs => cs.take n :: groups lengths (cs.drop n)

/-- The usual text: groups of small digits with hyphens between them. -/
def text (u : Uuid) : String :=
  "-".intercalate ((groups groupLengths u.digits).map String.ofList)

/-- The identifier of 32 digits of either case. -/
def ofDigits? (cs : List Char) : Option Uuid :=
  if cs.length = 32 then
    (cs.mapM Json.hexDigit?).map fun ds => ⟨BitVec.ofNat 128 (ds.foldl (fun n d => 16 * n + d) 0)⟩
  else none

/-- The digits of groups with hyphens between them. -/
def ungroup? : List Nat → List Char → Option (List Char)
  | [], _ => none
  | [n], cs => if cs.length = n then some cs else none
  | n :: lengths, cs =>
    match cs.drop n with
    | '-' :: rest => (ungroup? lengths rest).map (cs.take n ++ ·)
    | _ => none

/-- The identifier of a text with hyphens. -/
def ofHyphenated? (cs : List Char) : Option Uuid :=
  (ungroup? groupLengths cs).bind ofDigits?

/-- What an identifier stands in, in front of it and behind it. -/
def wrappings : List (String × String) :=
  [("", ""), ("\x7b", "\x7d"), ("urn:uuid:", "")]

/-- What is left of a text without a wrapping that is all there, in letters of either case. -/
def unwrap? (cs : List Char) (wrapping : String × String) : Option (List Char) :=
  let front := wrapping.1.toList
  let back := wrapping.2.toList
  if cs.length = front.length + 36 + back.length && (cs.take front.length).map Char.toLower = front
      && cs.drop (front.length + 36) = back then
    some ((cs.drop front.length).take 36)
  else none

/-- The identifier of a text: 32 digits, or with hyphens and perhaps wrapped. -/
def parse? (s : String) : Option Uuid :=
  let cs := s.toList
  match ofDigits? cs with
  | some u => some u
  | none => (wrappings.findSome? (unwrap? cs)).bind ofHyphenated?

/-- An identifier in JSON. -/
def decode : Decoder Uuid :=
  Decoder.string.filterMap fun s =>
    match parse? s with
    | some u => .ok u
    | none => .error (.refused "not an identifier")

end Uuid

end HomeVoice
