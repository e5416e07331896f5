import HomeVoice.Entity.AttributeValue
import HomeVoice.Entity.Features

/-!
# Attributes

The attributes of an entity by name, with a reader for each type of value. Readers that cannot do
without an attribute tell one that is missing from one of an unusable type.
-/

namespace HomeVoice

/-- Why an attribute cannot be used. -/
inductive AttributeFault where
  | missing (key : String)
  | invalid (key : String)
  deriving DecidableEq

/-- The text of a fault. -/
def AttributeFault.message : AttributeFault → String
  | .missing key => "attribute " ++ Text.quoted key ++ " is missing"
  | .invalid key => "attribute " ++ Text.quoted key ++ " has an unexpected type"

/-- The attributes of an entity. -/
structure Attributes where
  entries : Dict AttributeValue

namespace Attributes

/-- No attributes. -/
def empty : Attributes := ⟨[]⟩

/-- The attributes with one of them set. -/
def insert (a : Attributes) (key : String) (value : AttributeValue) : Attributes :=
  ⟨a.entries.insert key value⟩

/-- The value of an attribute. -/
def get? (a : Attributes) (key : String) : Option AttributeValue :=
  a.entries.get? key

/-- Whether there is an attribute of a name. -/
def contains (a : Attributes) (key : String) : Bool :=
  (a.get? key).isSome

/-- An attribute as a number. -/
def number? (a : Attributes) (key : String) : Option Binary64 :=
  (a.get? key).bind AttributeValue.asNumber?

/-- An attribute as an integer. -/
def int? (a : Attributes) (key : String) : Option Int64 :=
  (a.get? key).bind AttributeValue.asInt?

/-- An attribute as text. -/
def text? (a : Attributes) (key : String) : Option String :=
  (a.get? key).bind AttributeValue.asText?

/-- Whether an attribute counts as true; a missing one does not. -/
def flag (a : Attributes) (key : String) : Bool :=
  match a.get? key with
  | some v => v.isTruthy
  | none => false

/-- An attribute as a list of texts. -/
def texts? (a : Attributes) (key : String) : Option (List String) :=
  (a.get? key).bind AttributeValue.asTexts?

/-- An attribute under a view that it must have. -/
def require {α : Type} (view : AttributeValue → Option α) (a : Attributes) (key : String) :
    Except AttributeFault α :=
  match a.get? key with
  | none => .error (.missing key)
  | some v =>
    match view v with
    | some x => .ok x
    | none => .error (.invalid key)

/-- An attribute that must be a number. -/
def requireNumber (a : Attributes) (key : String) : Except AttributeFault Binary64 :=
  a.require AttributeValue.asNumber? key

/-- An attribute that must be an integer. -/
def requireInt (a : Attributes) (key : String) : Except AttributeFault Int64 :=
  a.require AttributeValue.asInt? key

/-- The supported features; none when the attribute is missing, unusable or negative. -/
def features (a : Attributes) : Features :=
  match a.int? "supported_features" with
  | some n => if n < 0 then .none else ⟨n.toUInt64⟩
  | none => .none

/-- The attributes given by the fields of an object. -/
def ofFields (fields : Dict Json) : Attributes :=
  fields.foldl (fun a (key, j) => a.insert key (.ofJson j)) empty

/-- The attributes as a JSON object. -/
def toJson (a : Attributes) : Json :=
  .obj (a.entries.mapValues AttributeValue.toJson)

/-- Attributes in JSON. -/
def decode : Decoder Attributes := fun j =>
  (Decoder.dict AttributeValue.decode j).map fun entries => ⟨Dict.ofEntries entries⟩

end Attributes

end HomeVoice
