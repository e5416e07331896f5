import HomeVoice.Bridge.Report
import HomeVoice.Protocol.Payload
import HomeVoice.Protocol.ServiceCall

/-!
# Control

A directive that controls an entity is decided from a snapshot of the entity and the payload
alone. The decision is an `Outcome`: at most one service call for the hub, the answer to give once
the call has been made, and the readings that the entity will then have.
-/

namespace HomeVoice

/-- What a decision depends on. -/
structure Situation where
  entity : Entity
  payload : Payload
  unit : TemperatureUnit
  now : Timestamp

/-- A decision. -/
structure Outcome where
  call : Option ServiceCall
  nameSpace : String
  name : String
  payload : Dict Json
  readings : List Reading

namespace Outcome

/-- A plain answer with nothing to call. -/
def idle : Outcome where
  call := none
  nameSpace := "Alexa"
  name := "Response"
  payload := []
  readings := []

/-- A plain answer to a call. -/
def respond (call : ServiceCall) : Outcome :=
  { idle with call := some call }

/-- The outcome with readings. -/
def withReadings (o : Outcome) (readings : List Reading) : Outcome :=
  { o with readings }

/-- The outcome with one reading. -/
def withReading (o : Outcome) (i : Interface) (name : String) (value : Json) : Outcome :=
  o.withReadings [⟨i, name, value⟩]

end Outcome

namespace Situation

/-- A call of a service in the domain of the entity. -/
def call (s : Situation) (service : String) : ServiceCall :=
  .own s.entity.id service

/-- An attribute that the decision cannot do without. -/
def needs {α : Type} (s : Situation) (read : Except AttributeFault α) : Except Refusal α :=
  read.mapError (Refusal.unusable s.entity.id)

/-- A percentage that the payload gives under a name. -/
def percentArgument (s : Situation) (name : String) : Except Refusal Int64 :=
  (s.payload.requireInt name).bind fun n =>
    if 0 ≤ n ∧ n ≤ 100 then .ok n else .error (.percentOutside name n)

end Situation

end HomeVoice
