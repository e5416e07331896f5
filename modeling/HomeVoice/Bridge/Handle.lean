import HomeVoice.Bridge.Control.Table
import HomeVoice.Bridge.Discovery
import HomeVoice.Bridge.Exchange
import HomeVoice.Protocol.Response

/-!
# Handling messages

A message is read as a directive, the entity that it is about is looked up, what is asked for is
decided and done, and the answer is given. Only exposed entities that become an endpoint can be
addressed; to the caller all others do not exist. A message that is no directive is answered by a
protocol error and leaves no trace. Every directive gets an answer and leaves one audit event.
-/

namespace HomeVoice

/-- A request: who asks, under which settings, with which fresh ids and time. -/
structure Request where
  settings : Settings
  context : RequestContext
  stamp : Stamp

/-- A computation that may be refused. -/
abbrev Attempt (α : Type) := ExceptT Refusal Exchange α

namespace Request

/-- The snapshot of an entity, or none. -/
def fetch (id : EntityId) : Attempt (Option Entity) :=
  .mk (.fetch id fun r => .done (r.mapError fun e => .internal (.storeFailed e)))

/-- The snapshots of all entities. -/
def fetchAll : Attempt (List Entity) :=
  .mk (.fetchAll fun r => .done (r.mapError fun e => .internal (.storeFailed e)))

/-- The effect of a service call. -/
def perform (q : Request) (call : ServiceCall) : Attempt Unit :=
  .mk (.call call q.context fun r =>
    .done (r.mapError fun e => .internal (.callFailed call.qualifiedName e)))

/-- The answer to a directive that asks for all endpoints. -/
def discover (q : Request) (d : Directive) : Attempt Response := do
  let entities ← fetchAll
  let endpoints := q.settings.endpoints entities
  return (Response.reply q.stamp d "Alexa.Discovery" "Discover.Response").withPayload
    [("endpoints", .arr (endpoints.map Endpoint.toJson))]

/-- The entity that a directive is about, and its endpoint. The policy of exposure is asked before
the store is. -/
def resolve (q : Request) (d : Directive) : Attempt (Entity × Endpoint) := do
  let some ref := d.endpoint | throw .withoutEndpoint
  let unknown := Refusal.noSuchEndpoint ref.id.text
  let some id := d.target? | throw unknown
  if !q.settings.exposure.exposes id then throw unknown
  let some entity ← fetch id | throw unknown
  let some endpoint := entity.endpoint? (q.settings.presentation? id) | throw unknown
  return (entity, endpoint)

/-- The answer to a directive that asks for the state of an entity. -/
def reportState (q : Request) (d : Directive) : Attempt Response := do
  let (entity, endpoint) ← q.resolve d
  return (Response.reply q.stamp d "Alexa" "StateReport").withReadings
    (entity.retrievable q.settings.unit endpoint)

/-- Readings followed by those of others that are of properties not read yet. -/
def addReadings (readings others : List Reading) : List Reading :=
  others.foldl (fun rs r => if rs.any fun s => s.sameKey r then rs else rs ++ [r]) readings

/-- The answer to a directive that controls an entity. -/
def control (q : Request) (d : Directive) (k : DirectiveKind)
    (decide : Situation → Except Refusal Outcome) : Attempt Response := do
  let (entity, endpoint) ← q.resolve d
  if !endpoint.accepts k then throw (.notAccepted entity.id k)
  let outcome ← liftExcept (decide ⟨entity, d.payload, q.settings.unit, q.stamp.now⟩)
  match outcome.call with
  | some call => q.perform call
  | none => pure ()
  let readings := addReadings outcome.readings (entity.proactive q.settings.unit endpoint)
  return ((Response.reply q.stamp d outcome.nameSpace outcome.name).withPayload
    outcome.payload).withReadings readings
where
  /-- A decision as an attempt that asks for nothing. -/
  liftExcept {α : Type} (r : Except Refusal α) : Attempt α := .mk (.done r)

/-- The answer to a directive, or why there is none. -/
def execute (q : Request) (d : Directive) : Attempt Response :=
  match d.kind? with
  | none => throw (.internal (.unknownDirective d.header.nameSpace d.header.name))
  | some k =>
    match k.route with
    | .discover => q.discover d
    | .reportState => q.reportState d
    | .control decide => q.control d k decide

/-- The audit event of a directive and its answer. -/
def audit (q : Request) (d : Directive) (response : Response) (detail : Option String) :
    AuditEvent where
  id := q.stamp.eventId
  timestamp := q.stamp.now
  request := ⟨d.header.nameSpace, d.header.name, d.target?⟩
  response := ⟨response.nameSpace, response.name⟩
  context := q.context
  detail := detail

/-- The answer to a directive, which always is one. That the audit event cannot be published is no
reason to answer differently. -/
def answer (q : Request) (d : Directive) : Exchange Response := do
  let result ← (q.execute d).run
  let (response, detail) := match result with
    | .ok response => (response, none)
    | .error refusal => (Response.refuse q.stamp d refusal, refusal.detail?)
  let _ ← Exchange.publish (q.audit d response detail) .done
  return response

/-- The answer to a message. -/
def handle (q : Request) (message : Json) : Exchange (Except ProtocolError Response) :=
  match Directive.ofMessage message with
  | .error e => .done (.error e)
  | .ok d => (q.answer d).bind fun response => .done (.ok response)

end Request

end HomeVoice
