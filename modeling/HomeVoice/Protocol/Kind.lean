/-!
# Kinds of directives

Every directive that is understood, with the namespace and the name by which messages call it.
Two kinds may share a name, but no two share both.
-/

namespace HomeVoice

/-- A kind of directive. -/
inductive DirectiveKind where
  | discover
  | reportState
  | turnOn
  | turnOff
  | setBrightness
  | adjustBrightness
  | setColor
  | setColorTemperature
  | increaseColorTemperature
  | decreaseColorTemperature
  | setPercentage
  | adjustPercentage
  | setTargetTemperature
  | adjustTargetTemperature
  | setThermostatMode
  | lock
  | unlock
  | activate
  | deactivate
  | setVolume
  | adjustVolume
  | setMute
  | stepAdjustVolume
  | stepSetMute
  | play
  | pause
  | stop
  | next
  | previous
  | selectInput
  deriving DecidableEq

namespace DirectiveKind

/-- All kinds. -/
def all : List DirectiveKind := [
  .discover, .reportState, .turnOn, .turnOff, .setBrightness, .adjustBrightness, .setColor,
  .setColorTemperature, .increaseColorTemperature, .decreaseColorTemperature, .setPercentage,
  .adjustPercentage, .setTargetTemperature, .adjustTargetTemperature, .setThermostatMode, .lock,
  .unlock, .activate, .deactivate, .setVolume, .adjustVolume, .setMute, .stepAdjustVolume,
  .stepSetMute, .play, .pause, .stop, .next, .previous, .selectInput]

/-- The namespace of a kind. -/
def nameSpace : DirectiveKind → String
  | .discover => "Alexa.Discovery"
  | .reportState => "Alexa"
  | .turnOn | .turnOff => "Alexa.PowerController"
  | .setBrightness | .adjustBrightness => "Alexa.BrightnessController"
  | .setColor => "Alexa.ColorController"
  | .setColorTemperature | .increaseColorTemperature | .decreaseColorTemperature =>
    "Alexa.ColorTemperatureController"
  | .setPercentage | .adjustPercentage => "Alexa.PercentageController"
  | .setTargetTemperature | .adjustTargetTemperature | .setThermostatMode =>
    "Alexa.ThermostatController"
  | .lock | .unlock => "Alexa.LockController"
  | .activate | .deactivate => "Alexa.SceneController"
  | .setVolume | .adjustVolume | .setMute => "Alexa.Speaker"
  | .stepAdjustVolume | .stepSetMute => "Alexa.StepSpeaker"
  | .play | .pause | .stop | .next | .previous => "Alexa.PlaybackController"
  | .selectInput => "Alexa.InputController"

/-- The name of a kind within its namespace. -/
def name : DirectiveKind → String
  | .discover => "Discover"
  | .reportState => "ReportState"
  | .turnOn => "TurnOn"
  | .turnOff => "TurnOff"
  | .setBrightness => "SetBrightness"
  | .adjustBrightness => "AdjustBrightness"
  | .setColor => "SetColor"
  | .setColorTemperature => "SetColorTemperature"
  | .increaseColorTemperature => "IncreaseColorTemperature"
  | .decreaseColorTemperature => "DecreaseColorTemperature"
  | .setPercentage => "SetPercentage"
  | .adjustPercentage => "AdjustPercentage"
  | .setTargetTemperature => "SetTargetTemperature"
  | .adjustTargetTemperature => "AdjustTargetTemperature"
  | .setThermostatMode => "SetThermostatMode"
  | .lock => "Lock"
  | .unlock => "Unlock"
  | .activate => "Activate"
  | .deactivate => "Deactivate"
  | .setVolume => "SetVolume"
  | .adjustVolume | .stepAdjustVolume => "AdjustVolume"
  | .setMute | .stepSetMute => "SetMute"
  | .play => "Play"
  | .pause => "Pause"
  | .stop => "Stop"
  | .next => "Next"
  | .previous => "Previous"
  | .selectInput => "SelectInput"

/-- Namespace and name in one. -/
def qualifiedName (k : DirectiveKind) : String :=
  k.nameSpace ++ "/" ++ k.name

/-- Whether a directive of this kind is about one endpoint. -/
def targetsEndpoint (k : DirectiveKind) : Bool :=
  k ≠ .discover

/-- The kind with a given namespace and name. -/
def parse? (nameSpace name : String) : Option DirectiveKind :=
  all.find? fun k => k.nameSpace = nameSpace && k.name = name

end DirectiveKind

end HomeVoice
