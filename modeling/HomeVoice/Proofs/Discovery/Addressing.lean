import HomeVoice.Proofs.Discovery.Agreement
import HomeVoice.Proofs.Handling.Reply

/-!
# Where endpoint ids lead

An endpoint that discovery lists was made of an entity, and directives about its id are meant for
that entity. They reach it exactly when the entity id has no number sign: endpoint ids write dots as
number signs, so a number sign that was there before is taken for a dot. Such an endpoint leads to
another entity or to none.
-/

namespace HomeVoice

namespace Request

variable {q : Request} {d : Directive} {e : Entity} {endpoint : Endpoint} {hub later : Hub}

/-- Looking an entity up in a state gives what the store has in that state. -/
theorem result_resolve {σ : Type} (ports : Ports σ) (q : Request) (d : Directive) (s : σ) :
    ((q.resolve d).run.run ports s).result = q.lookUp (ports.store s) d := by
  rw [Exchange.run_eq_answered, answered_resolve]
  rfl

/-- The entity that a directive is about and its endpoint, as a hub has them that is in order. -/
def resolvedOn (q : Request) (now : Timestamp) (hub : Hub) (d : Directive) :
    Except Refusal (Entity × Endpoint) :=
  ((q.resolve d).run.run (Hub.ports now .none) hub).result

/-- The directive reaches the entity of an id as the endpoint. -/
def Reaches (q : Request) (now : Timestamp) (hub : Hub) (d : Directive) (id : EntityId)
    (endpoint : Endpoint) : Prop :=
  ∃ e, q.resolvedOn now hub d = .ok (e, endpoint) ∧ e.id = id

/-- Only an entity without a number sign in its id is reached. -/
theorem notMem_of_reaches {now : Timestamp} {id : EntityId}
    (reached : q.Reaches now hub d id endpoint) : '#' ∉ id.text.toList := by
  obtain ⟨e, found, rfl⟩ := reached
  rw [resolvedOn, result_resolve] at found
  obtain ⟨id, named, -, stored, -⟩ := lookUp_eq_ok.1 found
  have stored : hub.get? id = some e := Except.ok.inj stored
  obtain ⟨-, rfl⟩ := Hub.get?_eq_some_iff.1 stored
  obtain ⟨ref, -, leads⟩ := Directive.target?_eq_some_iff.1 named
  exact EndpointId.notMem_of_toEntityId leads

/-- An endpoint leads to the entity that it was made of, as long as the devices are the same. -/
theorem reaches_of_notMem (now : Timestamp) (same : hub.SameDevices later)
    (member : e ∈ hub.entities) (exposed : q.settings.exposure.exposes e.id = true)
    (made : e.endpoint? (q.settings.presentation? e.id) = some endpoint)
    (about : d.endpoint.map EndpointRef.id = some endpoint.id) (plain : '#' ∉ e.id.text.toList) :
    q.Reaches now later d e.id endpoint := by
  rw [Entity.id_of_endpoint?_eq_some made] at about
  have named : d.target? = some e.id := target?_of_ofEntityId plain about
  have found : hub.get? e.id = some e := Hub.get?_eq_some_iff.2 ⟨member, rfl⟩
  rcases same.get?_cases e.id with ⟨notFound, -⟩ | ⟨_, e', found', stored, device⟩
  · cases notFound.symm.trans found
  · cases found.symm.trans found'
    refine ⟨e', ?_, device.id⟩
    rw [resolvedOn, result_resolve]
    exact lookUp_eq_ok.2 ⟨e.id, named, exposed, congrArg Except.ok stored,
      (device.endpoint? _).trans made⟩

/-- Endpoint ids lead back to what they were made of exactly as far as there are no number signs.
The endpoint id of an entity id that is read leads back to it exactly when it has none, and
otherwise to nothing but another entity of the same endpoint id. Entity ids that have none have
endpoint ids of their own. And whatever messages a hub has handled since it listed its endpoints,
directives about one of them reach the entity that it was made of exactly when the entity id has
none. -/
theorem endpoints_reached_iff (q : Request) (hub : Hub) (arrivals : List Arrival) :
    (∀ s id, EntityId.parse s = .ok id →
      ((EndpointId.ofEntityId id).toEntityId = .ok id ↔ '#' ∉ s.toList)) ∧
    (∀ id id', (EndpointId.ofEntityId id).toEntityId = .ok id' →
      EndpointId.ofEntityId id' = EndpointId.ofEntityId id) ∧
    (∀ id id', '#' ∉ id.text.toList → '#' ∉ id'.text.toList →
      EndpointId.ofEntityId id = EndpointId.ofEntityId id' → id = id') ∧
    ∀ now message, Asks message .discover → ∃ endpoints,
      Lists endpoints (q.resultOn now hub message) ∧
      List.Forall₂ (fun e endpoint =>
          e.endpoint? (q.settings.presentation? e.id) = some endpoint ∧
          ∀ later d, d.endpoint.map EndpointRef.id = some endpoint.id →
            (q.Reaches later (hub.afterAll q.settings arrivals) d e.id endpoint ↔
              '#' ∉ e.id.text.toList))
        (hub.entities.filter q.settings.shows) endpoints := by
  refine ⟨?_, fun id id' => EndpointId.ofEntityId_of_toEntityId,
    fun id id' => EndpointId.ofEntityId_inj, ?_⟩
  · intro s id read
    rw [EndpointId.toEntityId_ofEntityId_iff, EntityId.text_of_parse read]
  · intro now message asked
    refine ⟨q.settings.endpoints hub.entities, q.lists_endpoints now hub asked, ?_⟩
    have same := Hub.sameDevices_afterAll q.settings hub arrivals
    refine ((List.forall₂_and_left _ _).2
      ⟨fun e listed => listed, q.settings.forall₂_endpoints hub.entities⟩).imp ?_
    rintro e endpoint ⟨listed, made⟩
    obtain ⟨member, shown⟩ := List.mem_filter.1 listed
    have exposed := (Settings.shows_iff.1 shown).1
    exact ⟨made, fun later d about =>
      ⟨notMem_of_reaches, reaches_of_notMem later same member exposed made about⟩⟩

end Request

/-- A switch with a number sign in its id. -/
def Entity.hallSign : Entity :=
  { porch with id := { porch.id with objectName := "hall#2", objectName_ne := by decide } }

/-- A switch whose id has a dot in the same place. -/
def Entity.hallDot : Entity :=
  { porch with id := { porch.id with objectName := "hall.2", objectName_ne := by decide } }

/-- Asks to turn on the endpoint of the switch with the number sign. -/
def Arrival.hallOn : Arrival :=
  ⟨(Directive.addressed "Alexa.PowerController" "TurnOn" Entity.hallSign.id).envelope,
    ⟨.zero, none⟩, ⟨.zero, .zero, ⟨1, 0⟩⟩, ⟨1, 0⟩, .none⟩

/-- Two switches that differ in a number sign have one endpoint id, and it leads to the one without.
Whoever turns on the endpoint that was listed for the other one turns on this one, or is told that
there is no such endpoint when this one is not there. -/
theorem Request.endpoints_mistaken_hall :
    let q := Arrival.hallOn.request (exposing .all).settings
    let both := Hub.ofEntities [Entity.hallSign, Entity.hallDot]
    let alone := Hub.ofEntities [Entity.hallSign]
    Entity.hallSign.id ≠ Entity.hallDot.id ∧
      EndpointId.ofEntityId Entity.hallSign.id = EndpointId.ofEntityId Entity.hallDot.id ∧
      (EndpointId.ofEntityId Entity.hallSign.id).toEntityId = .ok Entity.hallDot.id ∧
      (both.after q.settings Arrival.hallOn).entities.map Entity.state = ["off", "on"] ∧
      (q.settings.endpoints alone.entities).map Endpoint.id = [.ofEntityId Entity.hallSign.id] ∧
      Denied (q.resultOn ⟨1, 0⟩ alone Arrival.hallOn.message) := by
  have leads : (EndpointId.ofEntityId Entity.hallSign.id).toEntityId =
      EntityId.parse Entity.hallDot.id.text :=
    congrArg EntityId.parse (by decide +kernel)
  rw [EntityId.parse_text] at leads
  refine ⟨by decide +kernel, by decide +kernel, leads, by decide +kernel, by decide +kernel, ?_⟩
  have asked : AsksAbout Arrival.hallOn.message .turnOn (.ofEntityId Entity.hallSign.id) :=
    ⟨_, Directive.ofMessage_envelope_addressed _ _ _, rfl, rfl⟩
  refine Request.denied_of_not_shows asked rfl ?_
  intro e member leads'
  obtain rfl := List.mem_singleton.1 member
  exact absurd (Except.ok.inj (leads'.symm.trans leads)) (by decide +kernel)

end HomeVoice
