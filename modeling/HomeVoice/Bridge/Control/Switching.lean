import HomeVoice.Bridge.Control.Basic

/-!
# Switching

Turning devices on and off, locking and unlocking, and starting and stopping scenes. Turning on a
cover opens it, and a group is switched by the services that act on any entity.
-/

namespace HomeVoice.Control

/-- The call that turns an entity on or off. -/
def powerCall (e : Entity) (state : PowerState) : ServiceCall :=
  match e.domain, state with
  | .cover, .on => .own e.id "open_cover"
  | .cover, .off => .own e.id "close_cover"
  | .group, .on => .inDomain ServiceCall.genericDomain "turn_on" e.id
  | .group, .off => .inDomain ServiceCall.genericDomain "turn_off" e.id
  | _, .on => .own e.id "turn_on"
  | _, .off => .own e.id "turn_off"

/-- Turns the entity on or off. -/
def power (state : PowerState) (s : Situation) : Except Refusal Outcome :=
  .ok ((Outcome.respond (powerCall s.entity state)).withReading .power "powerState"
    (.str state.name))

/-- Locks the entity. -/
def lock (s : Situation) : Except Refusal Outcome :=
  .ok ((Outcome.respond (s.call "lock")).withReading .lock "lockState" (.str LockState.locked.name))

/-- Unlocks the entity. -/
def unlock (s : Situation) : Except Refusal Outcome :=
  .ok ((Outcome.respond (s.call "unlock")).withReading .lock "lockState"
    (.str LockState.unlocked.name))

/-- What the answer says about the start of a scene. -/
def startedPayload (now : Timestamp) : Dict Json :=
  Dict.ofEntries [
    ("cause", .object [("type", .str "VOICE_INTERACTION")]),
    ("timestamp", .str now.protocolText)]

/-- The answer that a scene has been started or stopped by a call. -/
def started (name : String) (s : Situation) (service : String) : Outcome :=
  { Outcome.respond (s.call service) with
    nameSpace := "Alexa.SceneController"
    name
    payload := startedPayload s.now }

/-- Starts a scene or a script. -/
def activate (s : Situation) : Except Refusal Outcome :=
  .ok (started "ActivationStarted" s "turn_on")

/-- Stops a script; scenes cannot be stopped. -/
def deactivate (s : Situation) : Except Refusal Outcome :=
  if s.entity.domain = .script then .ok (started "DeactivationStarted" s "turn_off")
  else .error (.notDeactivatable s.entity.id)

end HomeVoice.Control
