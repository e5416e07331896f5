import HomeVoice.Json.Basic
import HomeVoice.Text.Quoted

/-!
# Reading structures from JSON

Structures come as objects with named fields or as arrays of their fields in order. A `Record`
says which fields there are and what stands for one that is missing; `Record.decode` reads a value
with it, and `Record.decodeIn` one that was written in another data format. A structure is read
exactly when each of its fields is, and a structure with several faults is refused for one of
them, by rules of their own:

* in an object, the faulty field whose key comes first, and only when all fields found are right
  the first missing one;
* in an array, the first item that is faulty or missing, and only then items left over.
-/

namespace HomeVoice

/-- Why a JSON value does not have an expected form. -/
inductive DecodeError where
  | wrongType (found : Json) (expected : String)
  | missingField (key : String)
  | tooShort (length : Nat) (record : String) (size : Nat)
  | tooLong (length : Nat)
  | refused (reason : String)

namespace DecodeError

/-- What a message calls a value that was found. -/
def describe : Json → String
  | .null => "null"
  | .bool b => "boolean `" ++ (if b then "true" else "false") ++ "`"
  | .int n => "integer `" ++ toString n ++ "`"
  | .float x => "floating point `" ++ x.text .json ++ "`"
  | .str s => "string " ++ Text.quoted s
  | .arr _ => "sequence"
  | .obj _ => "map"

/-- The text of an error. -/
def message : DecodeError → String
  | .wrongType found expected => "invalid type: " ++ describe found ++ ", expected " ++ expected
  | .missingField key => "missing field `" ++ key ++ "`"
  | .tooShort length record size =>
    "invalid length " ++ toString length ++ ", expected struct " ++ record ++ " with "
      ++ toString size ++ (if size = 1 then " element" else " elements")
  | .tooLong length =>
    "invalid length " ++ toString length ++ ", expected fewer elements in array"
  | .refused reason => reason

end DecodeError

/-- What a data format allows that others do not. -/
structure DataFormat where
  /-- Whether an array that stands for a structure may go on after its fields. -/
  allowsSurplus : Bool
  /-- Whether a value says nothing, and can so stand beside the name of a choice. -/
  saysNothing : Json → Bool

/-- The format JSON. -/
def DataFormat.json : DataFormat where
  allowsSurplus := false
  saysNothing
    | .null => true
    | _ => false

/-- A reader of one kind of value. -/
abbrev Decoder (α : Type) := Json → Except DecodeError α

namespace Decoder

variable {α β : Type}

/-- Any value. -/
def json : Decoder Json := .ok

/-- A value under a view that it must have. -/
def view (view? : Json → Option α) (expected : String) : Decoder α := fun j =>
  match view? j with
  | some a => .ok a
  | none => .error (.wrongType j expected)

/-- A string. -/
def string : Decoder String := view Json.str? "a string"

/-- A truth value. -/
def bool : Decoder Bool := view Json.bool? "a boolean"

/-- A 64-bit integer. -/
def int64 : Decoder Int64 := view Json.int64? "a 64-bit integer"

/-- A number of either kind. -/
def number : Decoder Binary64 := view Json.number? "a number"

/-- A value, or `null` for none. -/
def optional (decode : Decoder α) : Decoder (Option α)
  | .null => .ok none
  | j => (decode j).map some

/-- An array. -/
def list (decode : Decoder α) : Decoder (List α)
  | .arr items => items.mapM decode
  | j => .error (.wrongType j "a sequence")

/-- An object with any keys. -/
def dict (decode : Decoder α) : Decoder (Dict α)
  | .obj fields => fields.mapM fun (key, value) => (decode value).map fun a => (key, a)
  | j => .error (.wrongType j "a map")

/-- One of several names: the name as a string, or as the only key of an object whose value says
nothing. -/
def oneOf (format : DataFormat) (choices : List (String × α)) : Decoder α := fun j =>
  let find (name : String) : Except DecodeError α :=
    match Dict.get? choices name with
    | some a => .ok a
    | none => .error (.refused ("unknown variant " ++ Text.quoted name))
  match j with
  | .str name => find name
  | .obj [(name, value)] =>
    if format.saysNothing value then find name else .error (.wrongType value "unit")
  | j => .error (.wrongType j "string or map")

/-- What `decode` reads, under a further rule. -/
def filterMap (decode : Decoder α) (f : α → Except DecodeError β) : Decoder β := fun j =>
  (decode j).bind f

end Decoder

/-- What a structure is read from. -/
inductive RecordSource where
  | fields (fields : Dict Json)
  | items (items : List Json)

/-- A fault in one field of a structure. -/
inductive RecordFault where
  | inField (key : String) (error : DecodeError)
  | absent (key : String)
  | inItem (error : DecodeError)
  | exhausted (position : Nat)

/-- Of two faults, the one that is reported, where `f` is in an earlier field than `g`. -/
def RecordFault.first : (f g : RecordFault) → RecordFault
  | .inField a e, .inField b e' => if b < a then .inField b e' else .inField a e
  | .absent _, .inField b e => .inField b e
  | f, _ => f

/-- The fields of a structure. `read source position` reads them, the first of them standing at
`position` when they come as an array. -/
structure Record (α : Type) where
  size : Nat
  read : RecordSource → (position : Nat) → Except RecordFault α

namespace Record

variable {α β : Type}

/-- A structure without fields. -/
def pure (a : α) : Record α :=
  ⟨0, fun _ _ => .ok a⟩

/-- A field. `absent` stands for it when an object lacks it and `cut` when an array ends before
it; without them a field is required. -/
def field (key : String) (decode : Decoder α) (absent cut : Option α) : Record α where
  size := 1
  read
    | .fields fields, _ =>
      match fields.get? key with
      | some j => (decode j).mapError (.inField key)
      | none => match absent with
        | some a => .ok a
        | none => .error (.absent key)
    | .items items, position =>
      match items[position]? with
      | some j => (decode j).mapError .inItem
      | none => match cut with
        | some a => .ok a
        | none => .error (.exhausted position)

/-- A required field. -/
def required (key : String) (decode : Decoder α) : Record α :=
  field key decode none none

/-- A field with a default value. -/
def defaulted (key : String) (decode : Decoder α) (a : α) : Record α :=
  field key decode (some a) (some a)

/-- A field that may be missing or `null`, but whose place in an array must be there. -/
def nullable (key : String) (decode : Decoder α) : Record (Option α) :=
  field key decode.optional (some none) none

/-- Both structures side by side, the fields of `f` first. -/
def seq (f : Record (α → β)) (a : Record α) : Record β where
  size := f.size + a.size
  read source position :=
    match f.read source position, a.read source (position + f.size) with
    | .ok f, .ok a => .ok (f a)
    | .error e, .ok _ => .error e
    | .ok _, .error e => .error e
    | .error e, .error e' => .error (e.first e')

/-- The structure with its value replaced by an image. -/
def map (f : α → β) (a : Record α) : Record β :=
  ⟨a.size, fun source position => (a.read source position).map f⟩

instance : Applicative Record where
  pure := pure
  seq f a := seq f (a ())
  map := map

/-- The error of a fault in a structure called `name`. -/
def error (name : String) (size : Nat) : RecordFault → DecodeError
  | .inField _ e => e
  | .absent key => .missingField key
  | .inItem e => e
  | .exhausted position => .tooShort position name size

/-- The structure called `name` that a value of a format holds. -/
def decodeIn (format : DataFormat) (name : String) (r : Record α) : Decoder α
  | .obj fields => (r.read (.fields fields) 0).mapError (error name r.size)
  | .arr items =>
    match r.read (.items items) 0 with
    | .ok a =>
      if !format.allowsSurplus && r.size < items.length then .error (.tooLong items.length)
      else .ok a
    | .error fault => .error (error name r.size fault)
  | j => .error (.wrongType j ("struct " ++ name))

/-- The structure called `name` that a JSON value holds. -/
def decode (name : String) (r : Record α) : Decoder α :=
  r.decodeIn .json name

end Record

end HomeVoice
