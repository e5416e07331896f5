import HomeVoice.Protocol.Refusal

/-!
# Payloads

The arguments of a directive. A field that a directive needs and that is missing or of the wrong
type makes the directive invalid. Numbers may come as text here too.
-/

namespace HomeVoice

/-- The payload of a directive. -/
structure Payload where
  fields : Dict Json

namespace Payload

/-- No arguments. -/
def empty : Payload := ⟨[]⟩

/-- A field that may be missing. -/
def get? (p : Payload) (key : String) : Option Json :=
  p.fields.get? key

/-- A field of any type. -/
def require (p : Payload) (key : String) : Except Refusal Json :=
  match p.get? key with
  | some j => .ok j
  | none => .error (.missingField key)

/-- A field under a view that its value must have. -/
def requireAs {α : Type} (view : Json → Option α) (p : Payload) (key : String) :
    Except Refusal α :=
  (p.require key).bind fun j =>
    match view j with
    | some a => .ok a
    | none => .error (.invalidField key)

/-- The finite number that a value holds, as a number or as text. -/
def finiteNumber? (j : Json) : Option Binary64 :=
  let x? : Option Binary64 :=
    match j with
    | .str s => Text.readNumber? (Text.trim s.toList)
    | j => j.number?
  x?.filter Binary64.isFinite

/-- The temperature that a value is. -/
def temperature? (j : Json) : Option Temperature :=
  (Temperature.decode j).toOption

/-- A field that must be a finite number. -/
def requireNumber (p : Payload) (key : String) : Except Refusal Binary64 :=
  p.requireAs finiteNumber? key

/-- A field that must be a finite number, rounded to a 64-bit integer. -/
def requireInt (p : Payload) (key : String) : Except Refusal Int64 :=
  (p.requireNumber key).map Binary64.roundToInt64

/-- A field that must be a truth value. -/
def requireBool (p : Payload) (key : String) : Except Refusal Bool :=
  p.requireAs Json.bool? key

/-- A field that must be text. -/
def requireText (p : Payload) (key : String) : Except Refusal String :=
  p.requireAs Json.str? key

/-- A field that must be an object. -/
def requireObject (p : Payload) (key : String) : Except Refusal Payload :=
  p.requireAs (fun j => j.fields?.map Payload.mk) key

/-- A field that must be a temperature. -/
def requireTemperature (p : Payload) (key : String) : Except Refusal Temperature :=
  p.requireAs temperature? key

/-- A field that must be a temperature unless it is missing. -/
def optionalTemperature (p : Payload) (key : String) : Except Refusal (Option Temperature) :=
  match p.get? key with
  | some _ => (p.requireTemperature key).map some
  | none => .ok none

/-- A payload in JSON. -/
def decode : Decoder Payload := fun j =>
  (Decoder.dict Decoder.json j).map Payload.mk

end Payload

end HomeVoice
