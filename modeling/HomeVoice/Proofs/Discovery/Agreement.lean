import HomeVoice.Hub.Ports
import HomeVoice.Proofs.Discovery.Listing
import HomeVoice.Proofs.Handling.Denial
import HomeVoice.Proofs.Protocol.Envelope
import Mathlib.Tactic.TFAE

/-!
# Discovery and control agree

Which entities there are is decided twice: when all endpoints are listed, and when one is looked up
by its id. For a virtual hub whose ids have no number sign the two agree: an entity is listed
exactly when its state is reported on request, and exactly when no directive about it is answered as
if there were no such endpoint.
-/

namespace HomeVoice

/-- The result is the list of some endpoints. -/
def Lists (endpoints : List Endpoint) : Except ProtocolError Response → Prop
  | .ok response =>
    response.name = "Discover.Response" ∧
      response.payload = [("endpoints", .arr (endpoints.map Endpoint.toJson))]
  | .error _ => False

/-- The result is a report of state. -/
def Reports : Except ProtocolError Response → Prop
  | .ok response => response.name = "StateReport"
  | .error _ => False

/-- A report of state denies nothing. -/
theorem not_denied_of_reports {result : Except ProtocolError Response} (reports : Reports result) :
    ¬Denied result := by
  cases result with
  | error e => cases reports
  | ok response =>
    refine not_denied_of_name_ne ?_
    rw [show response.name = "StateReport" from reports]
    decide

/-- The message is a directive of a kind. -/
def Asks (message : Json) (k : DirectiveKind) : Prop :=
  ∃ d, Directive.ofMessage message = .ok d ∧ d.kind? = some k

/-- The message is a directive of a kind about the endpoint of an id. -/
def AsksAbout (message : Json) (k : DirectiveKind) (id : EndpointId) : Prop :=
  ∃ d, Directive.ofMessage message = .ok d ∧ d.kind? = some k ∧
    d.endpoint.map EndpointRef.id = some id

/-- The state of an entity can be asked for. -/
theorem exists_asksAbout_reportState (id : EntityId) :
    ∃ message, AsksAbout message .reportState (.ofEntityId id) :=
  ⟨_, _, Directive.ofMessage_envelope_addressed "Alexa" "ReportState" id, rfl, rfl⟩

theorem Directive.target?_eq_some_iff {d : Directive} {id : EntityId} :
    d.target? = some id ↔ ∃ ref, d.endpoint = some ref ∧ ref.id.toEntityId = .ok id := by
  unfold target?
  cases d.endpoint with
  | none => simp
  | some ref => cases leads : ref.id.toEntityId <;> simp [leads, Except.toOption]

/-- A directive about an endpoint is about the entity that the endpoint leads to. -/
theorem Directive.target?_of_leads {d : Directive} {id : EndpointId} {entity : EntityId}
    (about : d.endpoint.map EndpointRef.id = some id) (leads : id.toEntityId = .ok entity) :
    d.target? = some entity := by
  obtain ⟨ref, names, rfl⟩ := Option.map_eq_some_iff.1 about
  exact Directive.target?_eq_some_iff.2 ⟨ref, names, leads⟩

namespace Request

/-- What comes of a message when it is handled against a hub that is in order. -/
def resultOn (q : Request) (now : Timestamp) (hub : Hub) (message : Json) :
    Except ProtocolError Response :=
  ((q.handle message).run (Hub.ports now .none) hub).result

variable {q : Request} {now : Timestamp} {hub : Hub} {message : Json} {d : Directive}

theorem resultOn_of_ok (hd : Directive.ofMessage message = .ok d) :
    q.resultOn now hub message = (q.finish (Hub.ports now .none) d
      (q.plan ((Hub.ports now .none).store hub) d) hub).result := by
  rw [resultOn, q.run_handle_of_ok _ hd]
  rfl

/-! ## Looking up in a hub -/

theorem lookUp_of_shows (now : Timestamp) {e : Entity} (member : e ∈ hub.entities)
    (named : d.target? = some e.id) (shown : q.settings.shows e = true) :
    ∃ endpoint, q.lookUp ((Hub.ports now .none).store hub) d = .ok (e, endpoint) := by
  obtain ⟨exposed, endpoint, made⟩ := Settings.shows_iff.1 shown
  have found : hub.get? e.id = some e := Hub.get?_eq_some_iff.2 ⟨member, rfl⟩
  exact ⟨endpoint, lookUp_eq_ok.2 ⟨e.id, named, exposed, congrArg Except.ok found, made⟩⟩

theorem lookUp_of_not_shows {ref : EndpointRef} (about : d.endpoint = some ref)
    (hidden : ∀ e ∈ hub.entities, d.target? = some e.id → q.settings.shows e = false) :
    q.lookUp ((Hub.ports now .none).store hub) d = .error (.noSuchEndpoint ref.id.text) := by
  cases found : q.lookUp ((Hub.ports now .none).store hub) d with
  | ok pair =>
    obtain ⟨e, endpoint⟩ := pair
    obtain ⟨id, named, exposed, stored, made⟩ := lookUp_eq_ok.1 found
    have stored : hub.get? id = some e := Except.ok.inj stored
    obtain ⟨member, rfl⟩ := Hub.get?_eq_some_iff.1 stored
    have shown : q.settings.shows e = true := Settings.shows_iff.2 ⟨exposed, endpoint, made⟩
    cases shown.symm.trans (hidden e member named)
  | error refusal =>
    rcases refusal_of_lookUp about found with rfl | ⟨id, e, failed, -⟩
    · rfl
    · cases failed

/-! ## Endpoints that are shown and endpoints that are not -/

/-- A directive about an entity that is shown is not answered as if there were no endpoint. -/
theorem not_denied_of_shows {e : Entity} (member : e ∈ hub.entities)
    (named : d.target? = some e.id) (shown : q.settings.shows e = true)
    (hd : Directive.ofMessage message = .ok d) : ¬Denied (q.resultOn now hub message) := by
  obtain ⟨endpoint, found⟩ := lookUp_of_shows now member named shown
  rw [resultOn_of_ok hd]
  exact not_denied_of_found found

/-- The state of an entity that is shown is reported. -/
theorem reports_of_shows {e : Entity} (member : e ∈ hub.entities)
    (named : d.target? = some e.id) (shown : q.settings.shows e = true)
    (hd : Directive.ofMessage message = .ok d) (kind : d.kind? = some .reportState) :
    Reports (q.resultOn now hub message) := by
  obtain ⟨endpoint, found⟩ := lookUp_of_shows now member named shown
  rw [resultOn_of_ok hd, plan_of_reportState kind found]
  exact (rfl : "StateReport" = "StateReport")

/-- A directive about an endpoint that leads to nothing that is shown is answered as if there were
none. -/
theorem denied_of_not_shows {k : DirectiveKind} {id : EndpointId} (asked : AsksAbout message k id)
    (targets : k.targetsEndpoint = true)
    (hidden : ∀ e ∈ hub.entities, id.toEntityId = .ok e.id → q.settings.shows e = false) :
    Denied (q.resultOn now hub message) := by
  obtain ⟨d, hd, kind, names⟩ := asked
  obtain ⟨ref, about, rfl⟩ := Option.map_eq_some_iff.1 names
  have notFound : q.lookUp ((Hub.ports now .none).store hub) d =
      .error (.noSuchEndpoint ref.id.text) := by
    refine lookUp_of_not_shows about ?_
    intro e member named
    obtain ⟨_, about', leads⟩ := Directive.target?_eq_some_iff.1 named
    cases about.symm.trans about'
    exact hidden e member leads
  rw [resultOn_of_ok hd]
  exact denied_of_notFound kind targets notFound id

/-- A directive about the endpoint of an entity is about the entity. -/
theorem target?_of_ofEntityId {id : EntityId} (plain : '#' ∉ id.text.toList)
    (about : d.endpoint.map EndpointRef.id = some (.ofEntityId id)) : d.target? = some id :=
  Directive.target?_of_leads about (EndpointId.toEntityId_ofEntityId plain)

/-- Every message that asks for all endpoints gets those of the entities that can be read. -/
theorem lists_of_fetchAll {σ : Type} {ports : Ports σ} {s : σ} {entities : List Entity}
    (q : Request) (asked : Asks message .discover) (read : ports.fetchAll s = .ok entities) :
    Lists (q.settings.endpoints entities) ((q.handle message).run ports s).result := by
  obtain ⟨d, hd, kind⟩ := asked
  rw [q.run_handle_of_ok ports hd, plan_of_discover kind read]
  exact ⟨rfl, rfl⟩

theorem lists_endpoints (q : Request) (now : Timestamp) (hub : Hub)
    (asked : Asks message .discover) :
    Lists (q.settings.endpoints hub.entities) (q.resultOn now hub message) :=
  q.lists_of_fetchAll asked rfl

/-- Discovery and control agree on which endpoints there are. Every request for all endpoints lists
one endpoint for each entity that is shown, in ascending order of the entity ids and without two of
one endpoint id. An entity is in this list exactly when requests for its state are answered by it,
and exactly when no directive about it is answered as if there were no such endpoint. A directive
about an endpoint that leads to no entity is always answered in this way. -/
theorem discovery_agrees_with_control (q : Request) (now : Timestamp) (hub : Hub)
    (plain : ∀ e ∈ hub.entities, '#' ∉ e.id.text.toList) :
    ∃ endpoints : List Endpoint,
      (∀ message, Asks message .discover → Lists endpoints (q.resultOn now hub message)) ∧
      List.Forall₂ (fun e endpoint => e.endpoint? (q.settings.presentation? e.id) = some endpoint)
        (hub.entities.filter q.settings.shows) endpoints ∧
      (hub.entities.filter q.settings.shows).Pairwise (fun e e' => e.id < e'.id) ∧
      (endpoints.map Endpoint.id).Nodup ∧
      (∀ e ∈ hub.entities,
        let id := EndpointId.ofEntityId e.id
        List.TFAE [
          id ∈ endpoints.map Endpoint.id,
          ∀ message, AsksAbout message .reportState id → Reports (q.resultOn now hub message),
          ∃ message, AsksAbout message .reportState id ∧ Reports (q.resultOn now hub message),
          ∀ message k, AsksAbout message k id → k.targetsEndpoint = true →
            ¬Denied (q.resultOn now hub message),
          ∃ message k, AsksAbout message k id ∧ k.targetsEndpoint = true ∧
            ¬Denied (q.resultOn now hub message)]) ∧
      ∀ message k id, AsksAbout message k id → k.targetsEndpoint = true →
        (∀ entityId, id.toEntityId = .ok entityId → hub.get? entityId = none) →
          Denied (q.resultOn now hub message) := by
  refine ⟨q.settings.endpoints hub.entities, fun message => q.lists_endpoints now hub,
    q.settings.forall₂_endpoints hub.entities, hub.ascending.filter _,
    Hub.nodup_endpoints plain q.settings, ?_, ?_⟩
  · intro e member id
    have plain_e : '#' ∉ e.id.text.toList := plain e member
    rw [Hub.ofEntityId_mem_endpoints_iff plain q.settings member]
    tfae_have 1 → 2 := by
      rintro shown message ⟨d, hd, kind, about⟩
      exact reports_of_shows member (target?_of_ofEntityId plain_e about) shown hd kind
    tfae_have 2 → 3 := by
      intro reports
      obtain ⟨message, asked⟩ := exists_asksAbout_reportState e.id
      exact ⟨message, asked, reports message asked⟩
    tfae_have 3 → 5 := by
      rintro ⟨message, asked, reports⟩
      exact ⟨message, .reportState, asked, rfl, not_denied_of_reports reports⟩
    tfae_have 1 → 4 := by
      rintro shown message k ⟨d, hd, kind, about⟩ targets
      exact not_denied_of_shows member (target?_of_ofEntityId plain_e about) shown hd
    tfae_have 4 → 5 := by
      intro never
      obtain ⟨message, asked⟩ := exists_asksAbout_reportState e.id
      exact ⟨message, .reportState, asked, rfl, never message .reportState asked rfl⟩
    tfae_have 5 → 1 := by
      rintro ⟨message, k, asked, targets, notDenied⟩
      by_contra hidden
      refine notDenied (denied_of_not_shows asked targets ?_)
      intro e' member' leads
      have same : e'.id = e.id := by
        rw [EndpointId.toEntityId_ofEntityId plain_e] at leads
        exact (Except.ok.inj leads).symm
      rw [Hub.eq_of_id_eq member' member same]
      simpa using hidden
    tfae_finish
  · intro message k id asked targets absent
    refine denied_of_not_shows asked targets ?_
    intro e member leads
    have none := absent e.id leads
    exact absurd rfl (Hub.get?_eq_none_iff.1 none e member)

end Request

/-- A switch that is off. -/
def Entity.porch : Entity :=
  ⟨⟨"switch", "porch", by decide, by decide, by decide⟩, "off", .empty, ⟨0, 0⟩⟩

/-- A sensor of which nobody knows what it measures, so that it becomes no endpoint. -/
def Entity.gauge : Entity :=
  ⟨⟨"sensor", "gauge", by decide, by decide, by decide⟩, "3", .empty, ⟨0, 0⟩⟩

/-- The message that asks for all endpoints. -/
def Directive.discoverAll : Directive :=
  ⟨⟨"Alexa.Discovery", "Discover", "", none, protocolVersion⟩, none, .empty⟩

theorem Directive.asks_discoverAll : Asks Directive.discoverAll.envelope .discover :=
  ⟨_, Directive.ofMessage_envelope rfl (by rintro _ ⟨⟩), rfl⟩

/-- Of a switch and a sensor that becomes no endpoint only the switch is listed, and the sensor is
denied whatever is asked of it. -/
theorem Request.discovery_agrees_with_control_sensor :
    let q := exposing .all
    let hub := Hub.ofEntities [Entity.porch, Entity.gauge]
    (∀ e ∈ hub.entities, '#' ∉ e.id.text.toList) ∧
      (∃ endpoints, endpoints.map Endpoint.id = [⟨"switch#porch"⟩] ∧
        Lists endpoints (q.resultOn ⟨1, 0⟩ hub Directive.discoverAll.envelope)) ∧
      ∀ message k, AsksAbout message k (.ofEntityId Entity.gauge.id) → k.targetsEndpoint = true →
        Denied (q.resultOn ⟨1, 0⟩ hub message) := by
  intro q hub
  have plain : ∀ e ∈ hub.entities, '#' ∉ e.id.text.toList := by decide +kernel
  obtain ⟨endpoints, lists, matched, -, -, agree, -⟩ :=
    discovery_agrees_with_control q ⟨1, 0⟩ hub plain
  have shown : hub.entities.filter q.settings.shows = [Entity.porch] := rfl
  have ids : endpoints.map Endpoint.id = [⟨"switch#porch"⟩] := by
    rw [shown] at matched
    obtain _ | ⟨made, _ | _⟩ := matched
    exact congrArg (fun id => [id]) (Entity.id_of_endpoint?_eq_some made)
  refine ⟨plain, ⟨endpoints, ids, lists _ Directive.asks_discoverAll⟩, ?_⟩
  intro message k asked targets
  by_contra notDenied
  have member : Entity.gauge ∈ hub.entities := List.mem_cons_self
  have admitted_iff := (agree Entity.gauge member).out 4 0
  have listed := admitted_iff.1 ⟨message, k, asked, targets, notDenied⟩
  rw [ids] at listed
  revert listed
  decide

end HomeVoice
