import HomeVoice.Hub.Transition

/-!
# Services in place

How the virtual hub does a service: it writes to the entity where it is kept, one field after the
other, and a call that is rejected leaves behind what has been written by then. `Entity.apply` says
in one piece what comes of a call that is accepted.
-/

namespace HomeVoice

/-- An edit of an entity where it is kept, which may be rejected half way. -/
abbrev Edit (α : Type) := ExceptT Rejection (StateM Entity) α

namespace Edit

/-- What comes of an edit, and the entity that it leaves behind. -/
def run {α : Type} (edit : Edit α) (e : Entity) : Except Rejection α × Entity :=
  StateT.run (ExceptT.run edit) e

/-- Writes the state. -/
def setState (state : String) : Edit Unit :=
  modify fun e => e.withState state

/-- Writes an attribute. -/
def setAttribute (key : String) (value : AttributeValue) : Edit Unit :=
  modify fun e => e.withAttribute key value

/-- Writes an attribute when there is a value for it. -/
def setAttribute? (key : String) (value : Option AttributeValue) : Edit Unit :=
  match value with
  | some v => setAttribute key v
  | none => return

/-- Turns the entity on. Scenes have no state; lights and fans take settings along. -/
def turnOn (data : Dict Json) : Edit Unit := do
  let e ← get
  match e.domain with
  | .scene => return
  | .light => do
    setAttribute? Key.brightness
      ((data.get? Key.brightnessPercent).bind Json.int64? |>.map fun percent =>
        .int (Percent.toBrightness percent))
    setAttribute? Key.colorTemperature
      ((data.get? Key.colorTemperature).bind Json.int64? |>.map .int)
    setAttribute? Key.rgbColor ((data.get? Key.rgbColor).map .ofJson)
    setState "on"
  | .fan => do
    setAttribute? Key.speed ((data.get? Key.speed).bind Json.str? |>.map .text)
    setState "on"
  | _ => setState "on"

/-- Turns the entity off; scenes have no state. -/
def turnOff : Edit Unit := do
  let e ← get
  unless e.domain = .scene do
    setState "off"

/-- Writes the attributes of some keys that the data gives as numbers, and says whether there are
any. -/
def setNumbers (data : Dict Json) : List String → Edit Bool
  | [] => return false
  | key :: rest => do
    let value := (data.get? key).bind Json.number?
    setAttribute? key (value.map .number)
    let others ← setNumbers data rest
    return value.isSome || others

/-- Writes the setpoints that are given, which must be some. -/
def setSetpoints (data : Dict Json) : Edit Unit := do
  let given ← setNumbers data Entity.setpointKeys
  unless given do
    throw .noTemperature

/-- Writes the volume level, brought between 0 and 1. -/
def setVolume (level : Binary64) : Edit Unit :=
  setAttribute Key.volumeLevel (.number (level.clamp 0 1))

/-- Moves the volume level on by a step. -/
def stepVolume (step : Binary64) : Edit Unit := do
  let e ← get
  setVolume (e.volume + step)

/-- Does a service, but for noting the time. -/
def serve (c : ServiceCall) : Edit Unit :=
  match c.service with
  | "turn_on" => turnOn c.data
  | "turn_off" => turnOff
  | "open_cover" => do
    setState "open"
    setAttribute Key.currentPosition (.int 100)
  | "close_cover" => do
    setState "closed"
    setAttribute Key.currentPosition (.int 0)
  | "set_cover_position" => do
    let position := (← c.numberArgument Key.position).roundToInt64
    setState (if 0 < position then "open" else "closed")
    setAttribute Key.currentPosition (.int position)
  | "set_speed" => do
    let speed ← c.textArgument Key.speed
    setState (if speed = SpeedTable.off then "off" else "on")
    setAttribute Key.speed (.text speed)
  | "set_temperature" => setSetpoints c.data
  | "set_operation_mode" => do
    let mode ← c.textArgument Key.operationMode
    setState mode
    setAttribute Key.operationMode (.text mode)
  | "lock" => setState "locked"
  | "unlock" => setState "unlocked"
  | "volume_set" => do
    let level ← c.numberArgument Key.volumeLevel
    setVolume level
  | "volume_up" => stepVolume Entity.volumeStep
  | "volume_down" => stepVolume (-Entity.volumeStep)
  | "volume_mute" => do
    let muted ← c.boolArgument Key.volumeMuted
    setAttribute Key.volumeMuted (.flag muted)
  | "media_play" => setState "playing"
  | "media_pause" => setState "paused"
  | "media_stop" => setState "idle"
  | "media_next_track" | "media_previous_track" => return
  | "select_source" => do
    let source ← c.textArgument Key.source
    setAttribute Key.source (.text source)
  | _ => throw .unknownService

/-- Carries out a call at a time. Only services of the domain of the entity and of the generic one
act on it. -/
def call (c : ServiceCall) (now : Timestamp) : Edit Unit := do
  let e ← get
  if c.domain ≠ e.id.domainName ∧ c.domain ≠ ServiceCall.genericDomain then
    throw .otherDomain
  serve c
  modify fun e => { e with lastUpdated := now }

end Edit

end HomeVoice
