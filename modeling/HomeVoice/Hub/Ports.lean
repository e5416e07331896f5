import HomeVoice.Bridge.Exchange
import HomeVoice.Hub.Basic
import HomeVoice.Hub.InPlace

/-!
# The virtual hub behind an exchange

The virtual hub answers what an exchange asks for. Each way of asking can be out of order: then it
fails with a given error, and a call that fails in this way leaves the hub as it was.
-/

namespace HomeVoice

/-- What is out of order, and the errors that are met. -/
structure Outages where
  fetch : Option HubError
  fetchAll : Option HubError
  call : Option HubError
  publish : Option HubError
  deriving DecidableEq

namespace Outages

/-- Everything is in order. -/
def none : Outages := ⟨.none, .none, .none, .none⟩

/-- A result, unless an error is met first. -/
def guard {α : Type} (outage : Option HubError) (result : α) : Except HubError α :=
  match outage with
  | some e => .error e
  | .none => .ok result

end Outages

namespace Hub

/-- The hub after a call that may fail, and whether it did: the entity that is called is edited
where it is kept. -/
def attempt (hub : Hub) (c : ServiceCall) (now : Timestamp) : Except HubError Unit × Hub :=
  match hub.get? c.target with
  | none => (.error (.notFound "Entity" c.target.text), hub)
  | some e =>
    let (done, e') := (Edit.call c now).run e
    (done.mapError (Rejection.toError c), hub.upsert e')

/-- The virtual hub as what answers an exchange at a time. It keeps no audit events itself. -/
def ports (now : Timestamp) (outages : Outages) : Ports Hub where
  fetch hub id := Outages.guard outages.fetch (hub.get? id)
  fetchAll hub := Outages.guard outages.fetchAll hub.entities
  call hub c _ :=
    match outages.call with
    | some e => (.error e, hub)
    | none => hub.attempt c now
  publish hub _ := (Outages.guard outages.publish (), hub)

end Hub

end HomeVoice
