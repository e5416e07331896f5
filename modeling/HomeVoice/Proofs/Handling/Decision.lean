import HomeVoice.Proofs.Handling.Authorisation
import HomeVoice.Proofs.Handling.Context
import HomeVoice.Proofs.Protocol.Response

/-!
# What comes of a decision

A directive that may control an entity is performed or refused, as its control decides: it makes one
call, and the answer starts with the readings that are expected, or it makes none, and the answer
says why.
-/

namespace HomeVoice.Request

variable {σ : Type} {ports : Ports σ} {s : σ} {q : Request} {message : Json} {d : Directive}
  {k : DirectiveKind} {id : EntityId} {entity : Entity} {endpoint : Endpoint}
  {judge : Situation → Except Refusal Outcome} {o : Outcome} {c : ServiceCall} {refusal : Refusal}

/-- A message makes one call. When the call is accepted the answer is no error and starts with some
readings. -/
structure Performs (q : Request) (ports : Ports σ) (s : σ) (message : Json) (c : ServiceCall)
    (readings : List Reading) : Prop where
  calls : ((q.handle message).run ports s).calls = [(c, q.context)]
  answer : (ports.call s c q.context).1 = .ok () → ∃ response all,
    ((q.handle message).run ports s).result = .ok response ∧ response.isError = false ∧
      response.context = some all ∧ readings <+: all

/-- A message makes no call, and the answer is an error of a kind. -/
structure Refuses (q : Request) (ports : Ports σ) (s : σ) (message : Json) (kind : String) :
    Prop where
  calls : ((q.handle message).run ports s).calls = []
  answer : ∃ response, ((q.handle message).run ports s).result = .ok response ∧
    response.isError = true ∧ response.payload.get? "type" = some (.str kind)

theorem Authorised.performs (auth : q.Authorised (ports.store s) d k id entity endpoint)
    (hd : Directive.ofMessage message = .ok d) (route : k.route = .control judge)
    (decided : judge (q.situation d entity) = .ok o) (called : o.call = some c) :
    q.Performs ports s message c o.readings := by
  obtain ⟨calls, result⟩ := auth.handle_of_ok hd route decided called
  refine ⟨calls, fun accepted => ⟨_, _, result accepted, ?_, rfl, prefix_addReadings _ _⟩⟩
  exact decide_eq_false (Control.decided_of_ok route decided).name_ne

theorem Authorised.refuses (auth : q.Authorised (ports.store s) d k id entity endpoint)
    (hd : Directive.ofMessage message = .ok d) (route : k.route = .control judge)
    (refused : judge (q.situation d entity) = .error refusal) :
    q.Refuses ports s message refusal.kind := by
  obtain ⟨calls, result⟩ := auth.handle_of_error hd route refused
  exact ⟨calls, _, result, rfl, refusal.get?_type_payload⟩

end HomeVoice.Request
