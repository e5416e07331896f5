import HomeVoice.Json.Decode
import HomeVoice.Text.Number

/-!
# Attribute values

Hubs do not agree on the types of attributes: a number may come as an integer, a floating-point
number or text. A value keeps the type it came with, and has a view for each type that can be
asked for.
-/

namespace HomeVoice

/-- The value of an attribute. -/
inductive AttributeValue where
  | flag (value : Bool)
  | int (value : Int64)
  | number (value : Binary64)
  | text (value : String)
  | json (value : Json)

namespace AttributeValue

/-- The value as a number. -/
def asNumber? : AttributeValue → Option Binary64
  | .int n => some (.ofInt64 n)
  | .number x => some x
  | .text s => Text.readNumber? (Text.trim s.toList)
  | _ => none

/-- The value as an integer: text that is no integer and other numbers lose their fraction. -/
def asInt? : AttributeValue → Option Int64
  | .int n => some n
  | .number x => some x.toInt64
  | .text s =>
    let cs := Text.trim s.toList
    match Text.readInt64? cs with
    | some n => some n
    | none => (Text.readNumber? cs).map Binary64.toInt64
  | _ => none

/-- The value as text. -/
def asText? : AttributeValue → Option String
  | .text s => some s
  | .json (.str s) => some s
  | _ => none

/-- Whether the value counts as true: `true`, numbers but zero, text but the empty one, and all
other values but `null`. -/
def isTruthy : AttributeValue → Bool
  | .flag b => b
  | .int n => n != 0
  | .number x => !x.isZero
  | .text s => !s.isEmpty
  | .json .null => false
  | .json _ => true

/-- The value as a list of texts. -/
def asTexts? : AttributeValue → Option (List String)
  | .json j => j.strings?
  | _ => none

/-- The value given by JSON. An integer beyond 64 bits becomes the nearest floating-point
number. -/
def ofJson : Json → AttributeValue
  | .bool b => .flag b
  | .str s => .text s
  | .int n => if Json.fitsInt64 n then .int (.ofInt n) else .number (.ofInt n)
  | .float x => .number x
  | j => .json j

/-- The JSON of a value. -/
def toJson : AttributeValue → Json
  | .flag b => .bool b
  | .int n => .ofInt64 n
  | .number x => .ofNumber x
  | .text s => .str s
  | .json j => j

/-- The types a value can have, in the order in which they are tried. -/
def readers : List (Decoder AttributeValue) := [
  fun j => (Decoder.bool j).map .flag,
  fun j => (Decoder.int64 j).map .int,
  fun j => (Decoder.number j).map .number,
  fun j => (Decoder.string j).map .text,
  fun j => (Decoder.json j).map .json]

/-- A value in JSON: the first type that fits. -/
def decode : Decoder AttributeValue := fun j =>
  match readers.findSome? fun read => (read j).toOption with
  | some v => .ok v
  | none => .error (.refused "no type fits")

end AttributeValue

end HomeVoice
