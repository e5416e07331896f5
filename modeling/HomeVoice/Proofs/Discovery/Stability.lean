import HomeVoice.Proofs.Discovery.Agreement
import HomeVoice.Proofs.Handling.Reply

/-!
# Control does not change what is discovered

Endpoints are made of what entities are at the time, so they could change with any message. They do
not: no service writes what an endpoint is made of, so a hub keeps its devices through all messages,
and with them its endpoints.
-/

namespace HomeVoice

namespace Hub

/-- Whatever messages a hub has handled, those who ask it for all endpoints get the list that they
would have got before: every call that is accepted leaves the entity with the endpoint that it had,
however endpoints are presented. -/
theorem endpoints_stable (settings : Settings) (hub : Hub) (arrivals : List Arrival) :
    (∀ (q : Request) now message, q.settings = settings → Asks message .discover →
      Lists (settings.endpoints hub.entities) (q.resultOn now hub message) ∧
      Lists (settings.endpoints hub.entities)
        (q.resultOn now (hub.afterAll settings arrivals) message)) ∧
    ∀ (e e' : Entity) (c : ServiceCall) (now : Timestamp), e.apply c now = .ok e' →
      ∀ presentation, e'.endpoint? presentation = e.endpoint? presentation := by
  constructor
  · rintro q now message rfl asked
    have same := sameDevices_afterAll q.settings hub arrivals
    refine ⟨q.lists_endpoints now hub asked, ?_⟩
    rw [← same.endpoints q.settings]
    exact q.lists_endpoints now _ asked
  · intro e e' c now applied presentation
    exact (Entity.sameDevice_of_apply applied).endpoint? presentation

/-- A switch that has been turned on by a message is the endpoint that it was. -/
theorem endpoints_stable_porch :
    let q := Request.exposing .all
    let hub := ofEntities [Entity.porch, Entity.gauge]
    let arrivals : List Arrival := [⟨(Directive.addressed "Alexa.PowerController" "TurnOn"
      Entity.porch.id).envelope, ⟨.zero, none⟩, ⟨.zero, .zero, ⟨1, 0⟩⟩, ⟨1, 0⟩, .none⟩]
    let later := hub.afterAll q.settings arrivals
    (hub.get? Entity.porch.id).map Entity.state = some "off" ∧
      (later.get? Entity.porch.id).map Entity.state = some "on" ∧
      (q.settings.endpoints hub.entities).map Endpoint.id = [⟨"switch#porch"⟩] ∧
      Lists (q.settings.endpoints hub.entities)
        (q.resultOn ⟨2, 0⟩ later Directive.discoverAll.envelope) ∧
      ∃ e', Entity.porch.apply (.own Entity.porch.id "turn_on") ⟨1, 0⟩ = .ok e' ∧
        e'.endpoint? none = Entity.porch.endpoint? none := by
  intro q hub arrivals later
  obtain ⟨lists, keeps⟩ := endpoints_stable q.settings hub arrivals
  have listed := (lists q ⟨2, 0⟩ _ rfl Directive.asks_discoverAll).2
  have applied : Entity.porch.apply (.own Entity.porch.id "turn_on") ⟨1, 0⟩ =
      .ok { Entity.porch with state := "on", lastUpdated := ⟨1, 0⟩ } := rfl
  exact ⟨by decide +kernel, by decide +kernel, by decide +kernel, listed, _, applied,
    keeps _ _ _ _ applied none⟩

end Hub

end HomeVoice
