import HomeVoice.Protocol.Kind

/-!
# Capability interfaces

An endpoint announces what it can do as interfaces. Each interface has a namespace, the properties
that it can report, the ways in which they are reported, and the directives that it accepts.
-/

namespace HomeVoice

/-- The version of the protocol. -/
def protocolVersion : String := "3"

/-- A capability interface. -/
inductive Interface where
  | power
  | brightness
  | color
  | colorTemperature
  | percentage
  | thermostat
  | temperatureSensor
  | lock
  | scene
  | speaker
  | stepSpeaker
  | playback
  | input
  deriving DecidableEq

/-- What an interface is. -/
structure InterfaceSpec where
  /-- The last part of the namespace. -/
  name : String
  /-- The properties that can be reported. -/
  properties : List String
  /-- Whether the properties are reported when asked for. -/
  retrievable : Bool
  /-- Whether the properties are reported with every answer. -/
  proactive : Bool
  /-- The directives that are accepted. -/
  directives : List DirectiveKind

namespace Interface

/-- All interfaces. -/
def all : List Interface := [
  .power, .brightness, .color, .colorTemperature, .percentage, .thermostat, .temperatureSensor,
  .lock, .scene, .speaker, .stepSpeaker, .playback, .input]

/-- The table of the interfaces. -/
def spec : Interface → InterfaceSpec
  | .power => ⟨"PowerController", ["powerState"], true, false, [.turnOn, .turnOff]⟩
  | .brightness =>
    ⟨"BrightnessController", ["brightness"], true, false, [.setBrightness, .adjustBrightness]⟩
  | .color => ⟨"ColorController", ["color"], false, false, [.setColor]⟩
  | .colorTemperature =>
    ⟨"ColorTemperatureController", ["colorTemperatureInKelvin"], true, false,
      [.setColorTemperature, .increaseColorTemperature, .decreaseColorTemperature]⟩
  | .percentage =>
    ⟨"PercentageController", ["percentage"], true, false, [.setPercentage, .adjustPercentage]⟩
  | .thermostat =>
    ⟨"ThermostatController", ["thermostatMode", "targetSetpoint", "lowerSetpoint", "upperSetpoint"],
      true, false, [.setTargetTemperature, .adjustTargetTemperature, .setThermostatMode]⟩
  | .temperatureSensor => ⟨"TemperatureSensor", ["temperature"], true, true, []⟩
  | .lock => ⟨"LockController", ["lockState"], true, false, [.lock, .unlock]⟩
  | .scene => ⟨"SceneController", [], false, false, [.activate, .deactivate]⟩
  | .speaker =>
    ⟨"Speaker", ["volume", "muted"], true, false, [.setVolume, .adjustVolume, .setMute]⟩
  | .stepSpeaker => ⟨"StepSpeaker", [], false, false, [.stepAdjustVolume, .stepSetMute]⟩
  | .playback =>
    ⟨"PlaybackController", [], false, false, [.play, .pause, .stop, .next, .previous]⟩
  | .input => ⟨"InputController", [], false, false, [.selectInput]⟩

/-- The namespace of an interface. -/
def nameSpace (i : Interface) : String :=
  "Alexa." ++ i.spec.name

/-- The interface with a given namespace. -/
def ofNameSpace? (nameSpace : String) : Option Interface :=
  all.find? fun i => i.nameSpace = nameSpace

/-- Whether an interface accepts a directive. -/
def accepts (i : Interface) (k : DirectiveKind) : Bool :=
  i.spec.directives.contains k

/-- The interfaces of a version of the protocol. -/
def ofVersion? (version : String) : Option (List Interface) :=
  if version = protocolVersion then some all else none

end Interface

end HomeVoice
