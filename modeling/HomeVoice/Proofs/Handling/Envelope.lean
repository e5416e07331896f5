import HomeVoice.Proofs.Discovery.Agreement
import HomeVoice.Proofs.Handling.Answered
import HomeVoice.Proofs.Protocol.Carried

/-!
# What every answer has

An answer says which version of the protocol it speaks, and it repeats the correlation token and
the block that names an endpoint just as the message carried them. It has a context exactly when it
is no error and the message was about an endpoint. An error tells its kind and a message, and what
else it tells follows from its kind.
-/

namespace HomeVoice

namespace Json

/-- An answer is an error when its header says so. -/
def IsError (answer : Json) : Prop :=
  answer.at? ["event", "header", "name"] = some (.str Response.errorName)

/-- An answer tells of an error of a kind. -/
structure Explains (answer : Json) (kind : String) : Prop where
  type : answer.at? ["event", "payload", "type"] = some (.str kind)
  message : ∃ text, answer.at? ["event", "payload", "message"] = some (.str text)
  validRange : (answer.at? ["event", "payload", "validRange"]).isSome = true ↔
    kind = "TEMPERATURE_VALUE_OUT_OF_RANGE"
  nameSpace : answer.at? ["event", "header", "namespace"] =
    some (.str (if kind = "UNSUPPORTED_THERMOSTAT_MODE" then "Alexa.ThermostatController"
      else "Alexa"))

/-- An answer has all that an answer to a message has to have. -/
structure RespondsTo (answer message : Json) : Prop where
  version : answer.at? ["event", "header", "payloadVersion"] = some (.str "3")
  token : answer.at? ["event", "header", "correlationToken"] = message.carriedToken?
  endpoint : Option.Rel SameObject (answer.at? ["event", "endpoint"]) message.carriedEndpoint?
  context : (answer.at? ["context"]).isSome = true ↔
    ¬answer.IsError ∧ ∃ k, Asks message k ∧ k.targetsEndpoint = true
  error : answer.IsError → ∃ kind, answer.Explains kind

end Json

namespace Response

theorem isError_toJson_iff {r : Response} : r.toJson.IsError ↔ r.name = errorName := by
  rw [Json.IsError, at?_header, field?_headerJson_of_ne _ (by decide)]
  simp [Dict.get?]

/-- The answer that carries a refusal tells of it. -/
theorem explains_refuse (stamp : Stamp) (d : Directive) (refusal : Refusal) :
    (refuse stamp d refusal).toJson.Explains refusal.kind where
  type := (at?_payload _ _).trans refusal.get?_type_payload
  message := ⟨refusal.message, (at?_payload _ _).trans refusal.get?_message_payload⟩
  validRange := by
    rw [at?_payload, ← refusal.isSome_validRange?_iff, ← refusal.get?_validRange_payload]
    rfl
  nameSpace := by
    rw [at?_header, field?_headerJson_of_ne _ (by decide), ← refusal.nameSpace_eq]
    rfl

end Response

namespace Request

variable {σ : Type} {q : Request} {store : Store} {d : Directive} {response : Response}

namespace Answered

/-- An answer has a context exactly when it is no error and about an endpoint. -/
theorem isSome_context_iff (answered : q.Answered store d response) :
    response.context.isSome = true ↔
      response.name ≠ Response.errorName ∧ ∃ k, d.kind? = some k ∧ k.targetsEndpoint = true := by
  cases answered with
  | refused refusal => exact iff_of_false Bool.false_ne_true fun both => both.1 rfl
  | discovered kind =>
    refine iff_of_false Bool.false_ne_true ?_
    rintro ⟨-, k, asked, targets⟩
    cases kind.symm.trans asked
    cases targets
  | reported kind =>
    have name : "StateReport" ≠ Response.errorName := by decide
    exact iff_of_true rfl ⟨name, _, kind, rfl⟩
  | controlled kind route found accepted decided =>
    exact iff_of_true rfl ⟨(Control.decided_of_ok route decided).name_ne, _, kind,
      DirectiveKind.targetsEndpoint_of_route route⟩

/-- An answer to the directive of a message has all that it has to have. -/
theorem respondsTo {message : Json} (hd : Directive.ofMessage message = .ok d)
    (answered : q.Answered store d response) : response.toJson.RespondsTo message where
  version := by
    rw [Response.at?_header, Response.field?_headerJson_of_ne _ (by decide)]
    rfl
  token := by
    rw [Response.at?_header, Response.field?_headerJson_token, answered.repeated.1,
      Directive.token_of_ofMessage hd]
  endpoint := by
    rw [Response.at?_endpoint, answered.repeated.2]
    exact Directive.endpoint_of_ofMessage hd
  context := by
    have asks (k : DirectiveKind) : Asks message k ↔ d.kind? = some k := by
      simp [Asks, hd]
    simp only [Response.isSome_at?_context, Response.isError_toJson_iff, asks]
    exact answered.isSome_context_iff
  error := by
    intro error
    obtain ⟨refusal, rfl⟩ := answered.exists_refusal (Response.isError_toJson_iff.1 error)
    exact ⟨refusal.kind, Response.explains_refuse q.stamp d refusal⟩

end Answered

/-- A message is refused as none of the protocol exactly when it is not read as a directive, and
then nothing is read, called or recorded. Every other message gets an answer that has all that an
answer to it has to have. -/
theorem handle_respondsTo (q : Request) (ports : Ports σ) (s : σ) (message : Json) :
    let run := (q.handle message).run ports s
    (∀ e, run.result = .error e ↔ Directive.ofMessage message = .error e) ∧
    (∀ e, run.result = .error e → run.steps = [] ∧ run.state = s) ∧
    ∀ response, run.result = .ok response → response.toJson.RespondsTo message := by
  intro run
  refine ⟨fun e => result_handle_eq_error_iff, ?_, ?_⟩
  · intro e failed
    have refused : run = ⟨.error e, s, []⟩ :=
      run_handle_of_error ports q (result_handle_eq_error_iff.1 failed) s
    rw [refused]
    exact ⟨rfl, rfl⟩
  · intro response given
    obtain ⟨d, hd, answered⟩ := answered_of_handle given
    exact answered.respondsTo hd

end Request

end HomeVoice
