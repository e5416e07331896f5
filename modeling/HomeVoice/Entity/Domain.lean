/-!
# Device domains

The domain of an entity says what kind of device it is. Domains without a place among the kinds
of devices that can be controlled are kept by name.
-/

namespace HomeVoice

/-- A kind of device. -/
inductive Domain where
  | alert
  | automation
  | climate
  | cover
  | fan
  | group
  | inputBoolean
  | light
  | lock
  | mediaPlayer
  | scene
  | script
  | sensor
  | switch
  | other (name : String)
  deriving DecidableEq

namespace Domain

/-- The name of a domain in entity ids. -/
def name : Domain → String
  | .alert => "alert"
  | .automation => "automation"
  | .climate => "climate"
  | .cover => "cover"
  | .fan => "fan"
  | .group => "group"
  | .inputBoolean => "input_boolean"
  | .light => "light"
  | .lock => "lock"
  | .mediaPlayer => "media_player"
  | .scene => "scene"
  | .script => "script"
  | .sensor => "sensor"
  | .switch => "switch"
  | .other name => name

/-- The domains that have a place of their own. -/
def known : List Domain := [
  .alert, .automation, .climate, .cover, .fan, .group, .inputBoolean, .light, .lock, .mediaPlayer,
  .scene, .script, .sensor, .switch]

/-- The domain with a given name. -/
def ofName (name : String) : Domain :=
  match known.find? fun d => d.name = name with
  | some d => d
  | none => .other name

theorem name_ofName (s : String) : (ofName s).name = s := by
  unfold ofName
  split
  · next d h => simpa using List.find?_some h
  · rfl

end Domain

end HomeVoice
