import HomeVoice.Protocol.Interface
import HomeVoice.Time.Timestamp
import HomeVoice.Json.Basic
import HomeVoice.Entity.Basic

/-!
# Readings

The value of one property of an endpoint, as answers report it. Two readings are about the same
thing when they have the same interface and the same name.
-/

namespace HomeVoice

/-- The value of a property. -/
structure Reading where
  interface : Interface
  name : String
  value : Json

namespace Reading

/-- Whether two readings are of the same property. -/
def sameKey (r s : Reading) : Bool :=
  r.interface.nameSpace = s.interface.nameSpace && r.name = s.name

/-- The reading as JSON, sampled at a time. -/
def toJson (sampledAt : Timestamp) (r : Reading) : Json :=
  .object [
    ("namespace", .str r.interface.nameSpace),
    ("name", .str r.name),
    ("value", r.value),
    ("timeOfSample", .str sampledAt.protocolText),
    ("uncertaintyInMilliseconds", .int 0)]

end Reading

/-- Whether a device is on. -/
inductive PowerState where
  | on
  | off
  deriving DecidableEq

namespace PowerState

/-- The power state that a state of the hub means. -/
def ofState (state : String) : PowerState :=
  if Entity.isPoweredState state then .on else .off

/-- The name of a power state in messages. -/
def name : PowerState → String
  | .on => "ON"
  | .off => "OFF"

end PowerState

/-- Whether a lock is locked. -/
inductive LockState where
  | locked
  | unlocked
  | jammed
  deriving DecidableEq

namespace LockState

/-- The lock state that a state of the hub means. -/
def ofState (state : String) : LockState :=
  if state = "locked" then .locked
  else if state = "unlocked" then .unlocked
  else .jammed

/-- The name of a lock state in messages. -/
def name : LockState → String
  | .locked => "LOCKED"
  | .unlocked => "UNLOCKED"
  | .jammed => "JAMMED"

end LockState

end HomeVoice
