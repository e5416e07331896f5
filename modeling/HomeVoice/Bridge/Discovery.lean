import HomeVoice.Bridge.Settings
import HomeVoice.Entity.Basic
import HomeVoice.Entity.Key
import HomeVoice.Protocol.Endpoint

/-!
# Discovery

Which endpoint an entity becomes. Its domain gives the category and the base interface, its
supported features give the others. Entities of other domains, and sensors that do not measure
temperature, become none.
-/

namespace HomeVoice

/-- The manufacturer of every endpoint. -/
def manufacturerName : String := "voxbridge"

/-- What the description of a scene ends in. -/
def sceneDescriptionSuffix : String := " (Scene connected via voxbridge)"

namespace Entity

/-- The category of an entity; none for domains that cannot be controlled. -/
def category? (e : Entity) : Option DisplayCategory :=
  match e.domain with
  | .switch => some .switch
  | .light => some .light
  | .lock => some .smartlock
  | .climate => some .thermostat
  | .sensor => some .temperatureSensor
  | .cover =>
    match e.attributes.text? Key.deviceClass with
    | none => some .door
    | some c => if c = "garage" || c = "door" || c = "gate" then some .door else some .other
  | .mediaPlayer => some .tv
  | .script => some .activityTrigger
  | .scene => some .sceneTrigger
  | .fan | .alert | .automation | .group | .inputBoolean => some .other
  | .other _ => none

/-- The capabilities that come with features. -/
def optional (features : List (Interface × Bool)) : List Capability :=
  features.filterMap fun (i, enabled) => if enabled then some (.full i) else none

/-- The capability of a thermostat, with the properties that its features support. -/
def thermostatCapability (f : Features) : Capability :=
  let supported := [
    (Features.climateOperationMode, "thermostatMode"),
    (Features.climateTarget, "targetSetpoint"),
    (Features.climateTargetLow, "lowerSetpoint"),
    (Features.climateTargetHigh, "upperSetpoint")]
  ⟨.thermostat, supported.filterMap fun (g, name) => if f.contains g then some name else none, none⟩

/-- The features of a player by which it can be told to play, stop or change the track. -/
def playbackFeatures : Features :=
  [Features.playerPause, .playerStop, .playerNextTrack, .playerPreviousTrack].foldl Features.union
    Features.playerPlay

/-- The capabilities of an entity, that of its base interface first. -/
def capabilities (e : Entity) : List Capability :=
  let f := e.attributes.features
  match e.domain with
  | .alert | .automation | .group | .inputBoolean | .switch => [.full .power]
  | .light => .full .power :: optional [
      (.brightness, f.contains .lightBrightness),
      (.color, f.contains .lightColor),
      (.colorTemperature, f.contains .lightColorTemperature)]
  | .cover => .full .power :: optional [(.percentage, f.contains .coverSetPosition)]
  | .fan => .full .power :: optional [(.percentage, f.contains .fanSetSpeed)]
  | .climate => [thermostatCapability f, .full .temperatureSensor]
  | .lock => [.full .lock]
  | .mediaPlayer => .full .power :: optional [
      (.speaker, f.contains .playerVolumeSet),
      (.stepSpeaker, f.intersects (.union .playerVolumeMute .playerVolumeStep)),
      (.playback, f.intersects playbackFeatures),
      (.input, f.contains .playerSelectSource)]
  | .scene => [{ Capability.full .scene with deactivation := some false }]
  | .script =>
    [{ Capability.full .scene with deactivation := some (e.attributes.flag Key.canCancel) }]
  | .sensor =>
    match (e.attributes.text? Key.unitOfMeasurement).bind TemperatureUnit.ofSymbol? with
    | some _ => [.full .temperatureSensor]
    | none => []
  | .other _ => []

/-- The description of an entity that has none of its own. -/
def defaultDescription (e : Entity) : String :=
  if e.domain = .scene then e.id.text ++ sceneDescriptionSuffix else e.id.text

/-- The endpoint that an entity becomes, presented as the settings ask. -/
def endpoint? (e : Entity) (presentation : Option Presentation) : Option Endpoint :=
  match e.category?, e.capabilities with
  | none, _ => none
  | _, [] => none
  | some category, capabilities => some {
      id := .ofEntityId e.id
      friendlyName := (presentation.bind Presentation.name).getD e.name
      description := (presentation.bind Presentation.description).getD e.defaultDescription
      manufacturer := manufacturerName
      categories := [(presentation.bind Presentation.category).getD category]
      capabilities }

end Entity

/-- The endpoints that the assistant may know of, in the order of the entities. -/
def Settings.endpoints (s : Settings) (entities : List Entity) : List Endpoint :=
  (entities.filter fun e => s.exposure.exposes e.id).filterMap fun e =>
    e.endpoint? (s.presentation? e.id)

end HomeVoice
