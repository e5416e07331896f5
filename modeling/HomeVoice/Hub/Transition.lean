import HomeVoice.Entity.Basic
import HomeVoice.Entity.Key
import HomeVoice.Measure.Percent
import HomeVoice.Measure.SpeedTable
import HomeVoice.Protocol.ServiceCall

/-!
# What services do

How an entity of the virtual hub changes when a service is called on it. A call that is rejected
changes nothing; one that is accepted notes the time, also where it changes nothing else.
-/

namespace HomeVoice

/-- Why a call is rejected. -/
inductive Rejection where
  | otherDomain
  | unknownService
  | noTemperature
  | notNumber (key : String)
  | notText (key : String)
  | notBoolean (key : String)
  deriving DecidableEq

namespace Rejection

/-- The text of a rejection. -/
def message : Rejection → String
  | .otherDomain => "domain does not match entity"
  | .unknownService => "unknown service"
  | .noTemperature => "no temperature given"
  | .notNumber key => key ++ " must be a number"
  | .notText key => key ++ " must be a string"
  | .notBoolean key => key ++ " must be a boolean"

/-- The failure of the hub that a rejected call is. -/
def toError (call : ServiceCall) (r : Rejection) : HubError :=
  .collaborator (call.text ++ " rejected: " ++ r.message)

end Rejection

namespace ServiceCall

/-- A field of the data under a view that it must have. -/
def argument {α : Type} (c : ServiceCall) (key : String) (view : Json → Option α)
    (otherwise : Rejection) : Except Rejection α :=
  match (c.data.get? key).bind view with
  | some a => .ok a
  | none => .error otherwise

/-- A field of the data that must be a number. -/
def numberArgument (c : ServiceCall) (key : String) : Except Rejection Binary64 :=
  c.argument key Json.number? (.notNumber key)

/-- A field of the data that must be text. -/
def textArgument (c : ServiceCall) (key : String) : Except Rejection String :=
  c.argument key Json.str? (.notText key)

/-- A field of the data that must be a truth value. -/
def boolArgument (c : ServiceCall) (key : String) : Except Rejection Bool :=
  c.argument key Json.bool? (.notBoolean key)

end ServiceCall

namespace Entity

/-- The entity with an attribute set, when there is a value for it. -/
def withAttribute? (e : Entity) (key : String) (value : Option AttributeValue) : Entity :=
  match value with
  | some v => e.withAttribute key v
  | none => e

/-- An entity that is turned on. Scenes have no state; lights and fans take settings along. -/
def turnedOn (e : Entity) (data : Dict Json) : Entity :=
  match e.domain with
  | .scene => e
  | .light =>
    ((e.withAttribute? Key.brightness
        ((data.get? Key.brightnessPercent).bind Json.int64? |>.map fun percent =>
          .int (Percent.toBrightness percent))).withAttribute? Key.colorTemperature
        ((data.get? Key.colorTemperature).bind Json.int64? |>.map .int)).withAttribute? Key.rgbColor
        ((data.get? Key.rgbColor).map .ofJson)
      |>.withState "on"
  | .fan =>
    (e.withAttribute? Key.speed ((data.get? Key.speed).bind Json.str? |>.map .text)).withState "on"
  | _ => e.withState "on"

/-- An entity that is turned off; scenes have no state. -/
def turnedOff (e : Entity) : Entity :=
  if e.domain = .scene then e else e.withState "off"

/-- The attributes that hold setpoints. -/
def setpointKeys : List String := [Key.temperature, Key.targetTempLow, Key.targetTempHigh]

/-- A thermostat with the setpoints that are given as numbers. -/
def withSetpoints (e : Entity) (data : Dict Json) : Entity :=
  setpointKeys.foldl
    (fun e key => e.withAttribute? key ((data.get? key).bind Json.number? |>.map .number)) e

/-- Whether some setpoint is given as a number. -/
def hasSetpoint (data : Dict Json) : Bool :=
  setpointKeys.any fun key => ((data.get? key).bind Json.number?).isSome

/-- A player at a volume level, brought between 0 and 1. -/
def withVolume (e : Entity) (level : Binary64) : Entity :=
  e.withAttribute Key.volumeLevel (.number (level.clamp 0 1))

/-- The volume level of a player; one that says nothing is silent. -/
def volume (e : Entity) : Binary64 :=
  (e.attributes.number? Key.volumeLevel).getD 0

/-- The part of the volume that one step is. -/
def volumeStep : Binary64 := 0.1

/-- An entity after a service has been called on it, but for the time of the change. -/
def serve (e : Entity) (c : ServiceCall) : Except Rejection Entity :=
  match c.service with
  | "turn_on" => .ok (e.turnedOn c.data)
  | "turn_off" => .ok e.turnedOff
  | "open_cover" => .ok ((e.withState "open").withAttribute Key.currentPosition (.int 100))
  | "close_cover" => .ok ((e.withState "closed").withAttribute Key.currentPosition (.int 0))
  | "set_cover_position" =>
    (c.numberArgument Key.position).map fun position =>
      let position := position.roundToInt64
      (e.withState (if 0 < position then "open" else "closed")).withAttribute Key.currentPosition
        (.int position)
  | "set_speed" =>
    (c.textArgument Key.speed).map fun speed =>
      (e.withState (if speed = SpeedTable.off then "off" else "on")).withAttribute Key.speed
        (.text speed)
  | "set_temperature" =>
    if hasSetpoint c.data then .ok (e.withSetpoints c.data) else .error .noTemperature
  | "set_operation_mode" =>
    (c.textArgument Key.operationMode).map fun mode =>
      (e.withState mode).withAttribute Key.operationMode (.text mode)
  | "lock" => .ok (e.withState "locked")
  | "unlock" => .ok (e.withState "unlocked")
  | "volume_set" => (c.numberArgument Key.volumeLevel).map e.withVolume
  | "volume_up" => .ok (e.withVolume (e.volume + volumeStep))
  | "volume_down" => .ok (e.withVolume (e.volume + -volumeStep))
  | "volume_mute" =>
    (c.boolArgument Key.volumeMuted).map fun muted =>
      e.withAttribute Key.volumeMuted (.flag muted)
  | "media_play" => .ok (e.withState "playing")
  | "media_pause" => .ok (e.withState "paused")
  | "media_stop" => .ok (e.withState "idle")
  | "media_next_track" | "media_previous_track" => .ok e
  | "select_source" =>
    (c.textArgument Key.source).map fun source => e.withAttribute Key.source (.text source)
  | _ => .error .unknownService

/-- An entity after a call at a time. Only services of its own domain and of the generic one act
on it. -/
def apply (e : Entity) (c : ServiceCall) (now : Timestamp) : Except HubError Entity :=
  let served : Except Rejection Entity :=
    if c.domain ≠ e.id.domainName ∧ c.domain ≠ ServiceCall.genericDomain then .error .otherDomain
    else e.serve c
  match served with
  | .ok e' => .ok { e' with lastUpdated := now }
  | .error rejection => .error (rejection.toError c)

end Entity

end HomeVoice
