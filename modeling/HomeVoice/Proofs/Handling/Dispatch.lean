import HomeVoice.Proofs.Control.Effect
import HomeVoice.Proofs.Control.InRange
import HomeVoice.Proofs.Handling.Authorisation
import HomeVoice.Proofs.Handling.Denial
import HomeVoice.Proofs.Handling.Effects

/-!
# Calls are served

The bridge and the hub agree about services only by their names and by the fields of their data.
They never disagree: every call that is made is served, as long as the bounds of thermostats are
finite, because numbers that are not finite cannot be sent. So an answer that something went wrong
inside means one of two things: the directive is not known, or the entity lacks an attribute that it
cannot do without.
-/

namespace HomeVoice

namespace Hub

/-- The bounds that thermostats name are finite. -/
def FiniteBounds (hub : Hub) : Prop :=
  ∀ e ∈ hub.entities, e.domain = .climate → e.FiniteBounds

variable {hub hub' : Hub} {c : ServiceCall} {now : Timestamp} {outages : Outages}

theorem get?_of_ports_fetch {id : EntityId} {e : Entity}
    (stored : ((ports now outages).store hub).fetch id = .ok (some e)) : hub.get? id = some e :=
  (Outages.guard_eq_ok.1 stored).2

theorem ports_call_of_ok (served : hub.call c now = .ok hub') (context : RequestContext) :
    (ports now .none).call hub c context = (.ok (), hub') := by
  show hub.attempt c now = _
  rw [attempt_eq, served]

end Hub

namespace Request

variable {q : Request} {d : Directive} {k : DirectiveKind} {id : EntityId} {entity : Entity}
  {endpoint : Endpoint} {hub : Hub} {now : Timestamp} {outages : Outages} {o : Outcome}
  {c : ServiceCall}

theorem Authorised.stored_in_hub
    (auth : q.Authorised ((Hub.ports now outages).store hub) d k id entity endpoint) :
    entity ∈ hub.entities ∧ entity.id = id :=
  Hub.get?_eq_some_iff.1 (Hub.get?_of_ports_fetch auth.stored)

/-- A call that an authorised directive comes to is served, with the effect that it is meant to
have, if its entity is no thermostat or has finite bounds. -/
theorem Authorised.served_of_finiteBounds
    (auth : q.Authorised ((Hub.ports now outages).store hub) d k id entity endpoint)
    (decided : Control.Decided (q.situation d entity) k o) (called : o.call = some c)
    (bounded : entity.domain = .climate → entity.FiniteBounds) :
    ∃ e', Control.Effect entity q.settings.unit o.readings e' ∧ entity.SameDevice e' ∧
      hub.call c now = .ok (hub.upsert { e' with lastUpdated := now }) := by
  obtain ⟨member, rfl⟩ := auth.stored_in_hub
  have possible := Entity.domain_mem_of_accepts auth.shown auth.accepted
  obtain ⟨e', served, effect⟩ := decided.effect possible bounded called
  refine ⟨e', effect, .serve served, ?_⟩
  have target : c.target = entity.id := decided.target called
  have domain : c.domain = entity.id.domainName ∨ c.domain = ServiceCall.genericDomain := by
    rw [auth.call_domain decided called, Control.switchingDomain]
    split
    · exact .inr rfl
    · exact .inl rfl
  have found : hub.get? c.target = some entity := by
    rw [target]
    exact Hub.get?_of_ports_fetch auth.stored
  exact Hub.call_of_serve found domain served

/-- In a hub with finite bounds every call that an authorised directive comes to is served. -/
theorem Authorised.served
    (auth : q.Authorised ((Hub.ports now outages).store hub) d k id entity endpoint)
    (decided : Control.Decided (q.situation d entity) k o) (called : o.call = some c)
    (bounded : hub.FiniteBounds) :
    ∃ e', Control.Effect entity q.settings.unit o.readings e' ∧ entity.SameDevice e' ∧
      hub.call c now = .ok (hub.upsert { e' with lastUpdated := now }) :=
  auth.served_of_finiteBounds decided called (bounded entity auth.stored_in_hub.1)

theorem finish_of_served {hub' : Hub} (served : hub.call c now = .ok hub') (response : Response) :
    let run := q.finish (Hub.ports now .none) d (.call c response) hub
    run.result = .ok response ∧ run.state = hub' := by
  intro run
  have answered := Hub.ports_call_of_ok served q.context
  constructor
  · show Except.ok (q.settle d
      (Plan.carryOut (Hub.ports now .none) q.context hub (.call c response)).result).1 = _
    rw [Plan.carryOut, answered]
    rfl
  · show (Plan.carryOut (Hub.ports now .none) q.context hub (.call c response)).state = hub'
    rw [Plan.carryOut, answered]

/-- Every call of a message is served. -/
theorem ok_of_called_mem_steps (bounded : hub.FiniteBounds) {message : Json}
    {context : RequestContext} {r : Except HubError Unit}
    (made : .called c context r ∈ ((q.handle message).run (Hub.ports now .none) hub).steps) :
    r = .ok () := by
  cases hd : Directive.ofMessage message with
  | error e =>
    rw [run_handle_of_error _ _ hd] at made
    cases made
  | ok d =>
    rw [run_handle_of_ok _ _ hd] at made
    rcases List.mem_append.1 made with read | made
    · cases q.isRead_of_mem_reads _ d _ read
    · cases planned : q.plan ((Hub.ports now .none).store hub) d with
      | answer result =>
        rw [planned] at made
        cases List.mem_singleton.1 made
      | call c' response =>
        obtain ⟨k, judge, id, entity, endpoint, o, auth, route, decided, called, -⟩ :=
          plan_eq_call.1 planned
        obtain ⟨e', -, -, served⟩ :=
          auth.served (Control.decided_of_ok route decided) called bounded
        rw [planned] at made
        rcases List.mem_cons.1 made with this | published
        · cases this
          exact congrArg Prod.fst (Hub.ports_call_of_ok served q.context)
        · cases List.mem_singleton.1 published

/-- A message leaves the hub as it was, or controls one of its entities. This is so whatever is out
of order. -/
theorem state_handle (q : Request) (message : Json) (now : Timestamp) (outages : Outages)
    (bounded : hub.FiniteBounds) :
    let run := (q.handle message).run (Hub.ports now outages) hub
    run.state = hub ∨ ∃ e ∈ hub.entities, ∃ e' readings,
      Control.Effect e q.settings.unit readings e' ∧ e.SameDevice e' ∧
        run.state = hub.upsert { e' with lastUpdated := now } := by
  intro run
  cases hd : Directive.ofMessage message with
  | error e => exact .inl (congrArg Run.state (run_handle_of_error _ _ hd hub))
  | ok d =>
    have carried : run.state = _ := congrArg Run.state (run_handle_of_ok _ _ hd hub)
    rw [carried]
    cases planned : q.plan ((Hub.ports now outages).store hub) d with
    | answer result => exact .inl rfl
    | call c response =>
      obtain ⟨k, judge, id, entity, endpoint, o, auth, route, decided, called, -⟩ :=
        plan_eq_call.1 planned
      obtain ⟨e', effect, same, served⟩ :=
        auth.served (Control.decided_of_ok route decided) called bounded
      have member := auth.stored_in_hub.1
      show ((Hub.ports now outages).call hub c q.context).2 = hub ∨ _
      cases failed : outages.call with
      | some error =>
        left
        rw [Hub.ports, failed]
      | none =>
        right
        refine ⟨entity, member, e', _, effect, same, ?_⟩
        show ((Hub.ports now outages).call hub c q.context).2 = _
        rw [Hub.ports, failed]
        show (hub.attempt c now).2 = _
        rw [Hub.attempt_eq, served]

/-! ## What goes wrong inside -/

end Request

/-- The answer is that something went wrong inside. -/
def InternalError : Except ProtocolError Response → Prop
  | .ok response =>
    response.name = Response.errorName ∧
      response.payload.get? "type" = some (.str "INTERNAL_ERROR")
  | .error _ => False

theorem internalError_refuse_iff {stamp : Stamp} {d : Directive} {refusal : Refusal} :
    InternalError (.ok (Response.refuse stamp d refusal)) ↔ refusal.Internal := by
  have type : (Response.refuse stamp d refusal).payload.get? "type" = some (.str refusal.kind) :=
    refusal.get?_type_payload
  rw [InternalError, type]
  cases refusal <;> simp [Response.refuse, Response.reply, Response.withPayload, Refusal.kind,
    Refusal.Internal]

theorem not_internalError_of_name_ne {response : Response}
    (name : response.name ≠ Response.errorName) : ¬InternalError (.ok response) := by
  rintro ⟨error, -⟩
  exact name error

namespace Request

variable {q : Request} {d : Directive} {k : DirectiveKind} {id : EntityId} {entity : Entity}
  {endpoint : Endpoint} {hub : Hub} {now : Timestamp} {outages : Outages} {o : Outcome}
  {c : ServiceCall}

/-- A hub that is in order gives no internal reason for not finding an entity. -/
theorem not_internal_of_lookUp {refusal : Refusal}
    (notFound : q.lookUp ((Hub.ports now .none).store hub) d = .error refusal) :
    ¬refusal.Internal := by
  cases about : d.endpoint with
  | none =>
    rw [lookUp, about] at notFound
    cases notFound
    exact id
  | some ref =>
    rcases refusal_of_lookUp about notFound with rfl | ⟨id, e, failed, -⟩
    · exact fun internal => internal
    · cases failed

/-- The directive is not known, or it may control an entity that lacks what it takes. -/
def Faulty (q : Request) (store : Store) (d : Directive) : Prop :=
  d.kind? = none ∨ ∃ k id entity endpoint,
    q.Authorised store d k id entity endpoint ∧ Control.Lacks (q.situation d entity) k

theorem faulty_of_internalError (bounded : hub.FiniteBounds)
    (internal : InternalError (q.finish (Hub.ports now .none) d
      (q.plan ((Hub.ports now .none).store hub) d) hub).result) :
    q.Faulty ((Hub.ports now .none).store hub) d := by
  have planned := q.planned_plan ((Hub.ports now .none).store hub) d
  generalize plan : q.plan ((Hub.ports now .none).store hub) d = plan at planned internal
  cases planned with
  | unknown kind => exact .inl kind
  | storeFailed _ failed => cases failed
  | discovered =>
    have name : "Discover.Response" ≠ Response.errorName := by decide
    exact absurd internal (not_internalError_of_name_ne name)
  | reported =>
    have name : "StateReport" ≠ Response.errorName := by decide
    exact absurd internal (not_internalError_of_name_ne name)
  | notFound _ _ notFound =>
    exact absurd (internalError_refuse_iff.1 internal) (not_internal_of_lookUp notFound)
  | notAccepted => exact absurd (internalError_refuse_iff.1 internal) id
  | refused kind route found accepted refused =>
    obtain ⟨id, auth⟩ := exists_authorised kind found accepted
    have internal := internalError_refuse_iff.1 internal
    rcases Control.justified_decide _ route _ refused with blames | ⟨-, lacks⟩
    · exact absurd internal blames.not_internal
    · exact .inr ⟨_, id, _, _, auth, lacks⟩
  | idle _ route _ _ decided =>
    have name := (Control.decided_of_ok route decided).name_ne
    exact absurd internal (not_internalError_of_name_ne name)
  | called kind route found accepted decided called =>
    obtain ⟨id, auth⟩ := exists_authorised kind found accepted
    have rule := Control.decided_of_ok route decided
    obtain ⟨e', -, -, served⟩ := auth.served rule called bounded
    rw [(finish_of_served served _).1] at internal
    exact absurd internal (not_internalError_of_name_ne rule.name_ne)

theorem internalError_of_faulty (faulty : q.Faulty ((Hub.ports now outages).store hub) d) :
    InternalError (q.finish (Hub.ports now outages) d
      (q.plan ((Hub.ports now outages).store hub) d) hub).result := by
  rcases faulty with unknown | ⟨k, id, entity, endpoint, auth, lacks⟩
  · rw [plan, unknown]
    exact internalError_refuse_iff.2 trivial
  · obtain ⟨judge, route⟩ := lacks.route
    obtain ⟨fault, failed⟩ := Control.internal_of_lacks _ route lacks
    rw [auth.plan_of_error route failed]
    exact internalError_refuse_iff.2 trivial

/-- No call that is made against a hub with finite bounds is rejected. The answer that something
went wrong inside is given exactly when the message is a directive that is not known, or one that
may control an entity which lacks an attribute that the directive cannot do without. -/
theorem handle_served (q : Request) (message : Json) (now : Timestamp) (hub : Hub)
    (bounded : hub.FiniteBounds) :
    let run := (q.handle message).run (Hub.ports now .none) hub
    (∀ c context r, .called c context r ∈ run.steps → r = .ok ()) ∧
    (InternalError run.result ↔
      ∃ d, Directive.ofMessage message = .ok d ∧ q.Faulty ((Hub.ports now .none).store hub) d) := by
  intro run
  refine ⟨fun c context r => ok_of_called_mem_steps bounded, ?_⟩
  cases hd : Directive.ofMessage message with
  | error e =>
    have unanswered : run.result = .error e := congrArg Run.result (run_handle_of_error _ _ hd hub)
    rw [unanswered]
    simp [InternalError]
  | ok d =>
    have answered : run.result = _ := congrArg Run.result (run_handle_of_ok _ _ hd hub)
    rw [answered]
    constructor
    · intro internal
      exact ⟨d, rfl, faulty_of_internalError bounded internal⟩
    · rintro ⟨_, ⟨⟩, faulty⟩
      exact internalError_of_faulty faulty

end Request

/-- Asks the thermostat for at least 68 °F and at most 298.15 K. -/
def Directive.mildHallway : Directive :=
  { addressed "Alexa.ThermostatController" "SetTargetTemperature" Entity.hallway.id with
    payload := .mild }

/-- Asks the thermostat for one degree more than it is set to. -/
def Directive.warmerHallway : Directive :=
  { addressed "Alexa.ThermostatController" "AdjustTargetTemperature" Entity.hallway.id with
    payload := ⟨[("targetSetpointDelta",
      .object [("value", .int 1), ("scale", .str "CELSIUS")])]⟩ }

theorem Hub.finiteBounds_hallway : (ofEntities [Entity.hallway]).FiniteBounds := by
  intro e member _ key named x given
  obtain rfl := List.mem_singleton.1 member
  have lowest : (Entity.hallway.attributes.number? Key.minTemp).all Binary64.isFinite = true := by
    decide +kernel
  have highest : (Entity.hallway.attributes.number? Key.maxTemp).all Binary64.isFinite = true := by
    decide +kernel
  rcases List.mem_cons.1 named with rfl | named
  · rw [given] at lowest
    exact lowest
  · obtain rfl := List.mem_singleton.1 named
    rw [given] at highest
    exact highest

open Control in
/-- A thermostat without a target serves the call that sets its bounds, and cannot be told to change
its target. -/
theorem Request.handle_served_hallway :
    let q := exposing .all
    let hub := Hub.ofEntities [Entity.hallway]
    let run (d : Directive) := (q.handle d.envelope).run (Hub.ports ⟨1, 0⟩ .none) hub
    hub.FiniteBounds ∧
      (∃ c, .called c q.context (.ok ()) ∈ (run Directive.mildHallway).steps) ∧
      InternalError (run Directive.warmerHallway).result := by
  intro q hub run
  have bounded := Hub.finiteBounds_hallway
  have read (d : Directive) (version : d.header.payloadVersion = protocolVersion)
      (about : d.endpoint = some ⟨.ofEntityId Entity.hallway.id, []⟩) :
      Directive.ofMessage d.envelope = .ok d := by
    refine Directive.ofMessage_envelope version ?_
    intro ref named
    cases about.symm.trans named
    rfl
  refine ⟨bounded, ?_, ?_⟩
  · have setpoints := setpointOutcome_call (q.situation Directive.mildHallway .hallway)
      (setpointsOf none (some (20, 25)))
    have made := (mem_calls_handle_iff (Hub.ports ⟨1, 0⟩ .none) q _ hub _ _).2 ⟨rfl,
      Directive.mildHallway, .setTargetTemperature, _, _, .hallway, _, _, read _ rfl rfl,
      ⟨rfl, rfl, rfl, rfl, rfl, rfl⟩, rfl, setTargetTemperature_hallway q.stamp.now, setpoints⟩
    obtain ⟨result, step⟩ := Run.exists_called_of_mem_calls made
    obtain rfl := (handle_served q _ ⟨1, 0⟩ hub bounded).1 _ _ _ step
    exact ⟨_, step⟩
  · have auth : ∃ endpoint, q.Authorised ((Hub.ports ⟨1, 0⟩ .none).store hub)
        Directive.warmerHallway .adjustTargetTemperature Entity.hallway.id .hallway endpoint :=
      ⟨_, rfl, rfl, rfl, rfl, rfl, rfl⟩
    have asked : Directive.warmerHallway.payload.requireTemperature "targetSetpointDelta" =
        .ok ⟨1, .celsius⟩ := eq_ok_of_toOption (by decide +kernel)
    obtain ⟨endpoint, auth⟩ := auth
    exact (handle_served q _ ⟨1, 0⟩ hub bounded).2.2 ⟨Directive.warmerHallway, read _ rfl rfl,
      .inr ⟨_, _, _, endpoint, auth, .temperature asked rfl⟩⟩

end HomeVoice
