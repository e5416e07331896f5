import HomeVoice.Decimal.Text
import HomeVoice.Dict

/-!
# JSON values

Integers and floating-point numbers are different values here, as they are in every message:
`21` and `21.0` are told apart. Integers are those of the signed and the unsigned 64-bit range,
floating-point numbers are finite, and the fields of an object ascend by key; the reader of JSON
text gives no others.
-/

namespace HomeVoice

/-- A JSON value. -/
inductive Json where
  | null
  | bool (value : Bool)
  | int (value : Int)
  | float (value : Binary64)
  | str (value : String)
  | arr (items : List Json)
  | obj (fields : List (String × Json))

namespace Json

instance : Inhabited Json := ⟨.null⟩

/-- A number that is not finite has no JSON form and becomes `null`. -/
def ofNumber (x : Binary64) : Json :=
  if x.isFinite then .float x else .null

/-- A 64-bit integer. -/
def ofInt64 (n : Int64) : Json :=
  .int n.toInt

/-- A list of texts. -/
def ofStrings (items : List String) : Json :=
  .arr (items.map .str)

/-- A text, or `null` when there is none. -/
def ofString? : Option String → Json
  | some s => .str s
  | none => .null

/-- The object with the given fields in ascending order. -/
def object (fields : List (String × Json)) : Json :=
  .obj (Dict.ofEntries fields)

/-- The fields of an object. -/
def fields? : Json → Option (Dict Json)
  | .obj fields => some fields
  | _ => none

/-- The value of a field; none when the value is no object or has no such field. -/
def field? (j : Json) (key : String) : Option Json :=
  j.fields?.bind fun fields => Dict.get? fields key

/-- The text of a string value. -/
def str? : Json → Option String
  | .str s => some s
  | _ => none

/-- The truth value of a boolean. -/
def bool? : Json → Option Bool
  | .bool b => some b
  | _ => none

/-- The value of a number of either kind. -/
def number? : Json → Option Binary64
  | .int n => some (.ofInt n)
  | .float x => some x
  | _ => none

/-- Whether an integer is a signed 64-bit integer. -/
def fitsInt64 (n : Int) : Bool :=
  Int64.minValue.toInt ≤ n && n ≤ Int64.maxValue.toInt

/-- The value of an integer of 64 bits. -/
def int64? : Json → Option Int64
  | .int n => if fitsInt64 n then some (.ofInt n) else none
  | _ => none

/-- The items of an array in which every item is a string. -/
def strings? : Json → Option (List String)
  | .arr items => items.mapM str?
  | _ => none

end Json

end HomeVoice
