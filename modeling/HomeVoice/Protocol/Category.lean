import HomeVoice.Json.Decode

/-!
# Display categories

How the assistant shows an endpoint. A category is read strictly from configurations and in any
letter case from people.
-/

namespace HomeVoice

/-- A display category. -/
inductive DisplayCategory where
  | activityTrigger
  | camera
  | door
  | light
  | other
  | sceneTrigger
  | smartlock
  | smartplug
  | speaker
  | switch
  | temperatureSensor
  | thermostat
  | tv
  deriving DecidableEq

namespace DisplayCategory

/-- The name of a category. -/
def name : DisplayCategory → String
  | .activityTrigger => "ACTIVITY_TRIGGER"
  | .camera => "CAMERA"
  | .door => "DOOR"
  | .light => "LIGHT"
  | .other => "OTHER"
  | .sceneTrigger => "SCENE_TRIGGER"
  | .smartlock => "SMARTLOCK"
  | .smartplug => "SMARTPLUG"
  | .speaker => "SPEAKER"
  | .switch => "SWITCH"
  | .temperatureSensor => "TEMPERATURE_SENSOR"
  | .thermostat => "THERMOSTAT"
  | .tv => "TV"

/-- All categories. -/
def all : List DisplayCategory := [
  .activityTrigger, .camera, .door, .light, .other, .sceneTrigger, .smartlock, .smartplug,
  .speaker, .switch, .temperatureSensor, .thermostat, .tv]

/-- The category with a name in any letter case, where only ASCII letters have a case. -/
def parse? (s : String) : Option DisplayCategory :=
  let upper : String := .ofList (s.toList.map Char.toUpper)
  all.find? fun c => c.name = upper

/-- The text that says that there is no category of a name. -/
def unknownMessage (s : String) : String :=
  "unknown display category " ++ Text.quoted s

/-- A category in a data format. -/
def decode (format : DataFormat) : Decoder DisplayCategory :=
  .oneOf format (all.map fun c => (c.name, c))

end DisplayCategory

end HomeVoice
