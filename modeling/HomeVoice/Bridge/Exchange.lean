import HomeVoice.Entity.Basic
import HomeVoice.Protocol.Audit
import HomeVoice.Protocol.ServiceCall

/-!
# Exchanges

Handling a directive asks for things from outside: snapshots of entities, calls of services and
the publication of audit events. An `Exchange` is such a computation as data: it is done, or it asks
for one thing and goes on with what it gets. `Exchange.run` carries it out over given `Ports` and
keeps the steps that were taken.
-/

namespace HomeVoice

/-- A computation that asks for things from outside. -/
inductive Exchange (α : Type) where
  | done (result : α)
  | fetch (id : EntityId) (next : Except HubError (Option Entity) → Exchange α)
  | fetchAll (next : Except HubError (List Entity) → Exchange α)
  | call (call : ServiceCall) (context : RequestContext) (next : Except HubError Unit → Exchange α)
  | publish (event : AuditEvent) (next : Except HubError Unit → Exchange α)

namespace Exchange

variable {α β σ : Type}

/-- One computation after another. -/
def bind (x : Exchange α) (f : α → Exchange β) : Exchange β :=
  match x with
  | .done a => f a
  | .fetch id next => .fetch id fun r => (next r).bind f
  | .fetchAll next => .fetchAll fun r => (next r).bind f
  | .call c context next => .call c context fun r => (next r).bind f
  | .publish event next => .publish event fun r => (next r).bind f

instance : Monad Exchange where
  pure := .done
  bind := bind

end Exchange

/-- What answers an exchange, with a state of its own. Reading does not change the state. -/
structure Ports (σ : Type) where
  fetch : σ → EntityId → Except HubError (Option Entity)
  fetchAll : σ → Except HubError (List Entity)
  call : σ → ServiceCall → RequestContext → Except HubError Unit × σ
  publish : σ → AuditEvent → Except HubError Unit × σ

/-- A step that was taken, with what came back. -/
inductive ExchangeStep where
  | fetched (id : EntityId) (result : Except HubError (Option Entity))
  | fetchedAll (result : Except HubError (List Entity))
  | called (call : ServiceCall) (context : RequestContext) (result : Except HubError Unit)
  | published (event : AuditEvent) (result : Except HubError Unit)

/-- What came of an exchange. -/
structure Run (σ α : Type) where
  result : α
  state : σ
  steps : List ExchangeStep

/-- The run with a step before its first. -/
def Run.after {σ α : Type} (step : ExchangeStep) (r : Run σ α) : Run σ α :=
  { r with steps := step :: r.steps }

/-- The calls of a run, whether they succeeded or not. -/
def Run.calls {σ α : Type} (r : Run σ α) : List (ServiceCall × RequestContext) :=
  r.steps.filterMap fun
    | .called call context _ => some (call, context)
    | _ => none

/-- The events that a run published. -/
def Run.events {σ α : Type} (r : Run σ α) : List AuditEvent :=
  r.steps.filterMap fun
    | .published event (.ok _) => some event
    | _ => none

/-- Carries out an exchange from a state. -/
def Exchange.run {σ α : Type} (ports : Ports σ) : Exchange α → σ → Run σ α
  | .done a, s => ⟨a, s, []⟩
  | .fetch id next, s =>
    let r := ports.fetch s id
    ((next r).run ports s).after (.fetched id r)
  | .fetchAll next, s =>
    let r := ports.fetchAll s
    ((next r).run ports s).after (.fetchedAll r)
  | .call c context next, s =>
    let (r, s') := ports.call s c context
    ((next r).run ports s').after (.called c context r)
  | .publish event next, s =>
    let (r, s') := ports.publish s event
    ((next r).run ports s').after (.published event r)

end HomeVoice
