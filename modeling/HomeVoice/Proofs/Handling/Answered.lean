import HomeVoice.Proofs.Handling.Planned

/-!
# The ways in which a directive is answered

A message that is no directive gets a protocol error and asks for nothing. Every directive gets a
response, and `Request.Answered` has one rule for each sort of response: a refusal, the list of
endpoints, a report of state and the answer to a control. `answered_of_handle` says that there are
no others.
-/

namespace HomeVoice

namespace Request

variable {σ : Type} {q : Request} {store : Store} {d : Directive} {ports : Ports σ} {s : σ}
  {message : Json} {response : Response}

/-- How a directive is answered. -/
inductive Answered (q : Request) (store : Store) (d : Directive) : Response → Prop
  | refused (refusal : Refusal) : Answered q store d (Response.refuse q.stamp d refusal)
  | discovered (kind : d.kind? = some .discover) (entities : List Entity) :
      Answered q store d (q.discovered d entities)
  | reported {entity : Entity} {endpoint : Endpoint} (kind : d.kind? = some .reportState)
      (found : q.lookUp store d = .ok (entity, endpoint)) :
      Answered q store d (q.reported d entity endpoint)
  | controlled {k : DirectiveKind} {judge : Situation → Except Refusal Outcome} {entity : Entity}
      {endpoint : Endpoint} {outcome : Outcome} (kind : d.kind? = some k)
      (route : k.route = .control judge) (found : q.lookUp store d = .ok (entity, endpoint))
      (accepted : endpoint.accepts k = true)
      (decided : judge (q.situation d entity) = .ok outcome) :
      Answered q store d (q.concluded d entity endpoint outcome)

namespace Answered

/-- An answer repeats what its directive has kept of the message. -/
theorem repeated (answered : q.Answered store d response) :
    response.correlationToken = d.header.correlationToken ∧ response.endpoint = d.endpoint := by
  cases answered <;> exact ⟨rfl, rfl⟩

/-- An answer is an error only when it carries a refusal. -/
theorem exists_refusal (answered : q.Answered store d response)
    (error : response.name = Response.errorName) :
    ∃ refusal, response = Response.refuse q.stamp d refusal := by
  cases answered with
  | refused refusal => exact ⟨refusal, rfl⟩
  | discovered => exact absurd error (show "Discover.Response" ≠ Response.errorName by decide)
  | reported => exact absurd error (show "StateReport" ≠ Response.errorName by decide)
  | controlled kind route found accepted decided =>
    exact absurd error (Control.decided_of_ok route decided).name_ne

/-- Only who asks for the state of an entity gets a report of it. -/
theorem reported_of_name (answered : q.Answered store d response)
    (named : response.name = "StateReport") :
    ∃ entity endpoint, d.kind? = some .reportState ∧ q.lookUp store d = .ok (entity, endpoint) ∧
      response = q.reported d entity endpoint := by
  cases answered with
  | refused => exact absurd named (show Response.errorName ≠ "StateReport" by decide)
  | discovered => exact absurd named (show "Discover.Response" ≠ "StateReport" by decide)
  | reported kind found => exact ⟨_, _, kind, found, rfl⟩
  | @controlled k judge entity endpoint outcome kind route found accepted decided =>
    have named : outcome.name = "StateReport" := named
    rcases (Control.decided_of_ok route decided).name with name | name | name
    all_goals
      rw [name] at named
      exact absurd named (by decide)

end Answered

/-- However a plan is carried out, its answer is one of these. -/
theorem answered_settle {plan : Plan} (planned : q.Planned store d plan) (ports : Ports σ) (s : σ) :
    q.Answered store d (q.settle d (plan.carryOut ports q.context s).result).1 := by
  cases planned with
  | unknown | storeFailed | notFound | notAccepted | refused => exact .refused _
  | discovered kind => exact .discovered kind _
  | reported kind found => exact .reported kind found
  | idle kind route found accepted decided =>
    exact .controlled kind route found accepted decided
  | @called k judge entity endpoint outcome c kind route found accepted decided =>
    simp only [Plan.carryOut]
    cases (ports.call s c q.context).1 with
    | error e => exact .refused _
    | ok _ => exact .controlled kind route found accepted decided

/-- The response to a directive is what its plan comes to. -/
theorem result_handle_of_ok (ports : Ports σ) (q : Request)
    (hd : Directive.ofMessage message = .ok d) (s : σ) :
    ((q.handle message).run ports s).result =
      .ok (q.settle d ((q.plan (ports.store s) d).carryOut ports q.context s).result).1 :=
  congrArg Run.result (run_handle_of_ok ports q hd s)

/-- A message gets a protocol error exactly when it is not read as a directive. -/
theorem result_handle_eq_error_iff {e : ProtocolError} :
    ((q.handle message).run ports s).result = .error e ↔
      Directive.ofMessage message = .error e := by
  cases hd : Directive.ofMessage message with
  | error e' => simp [run_handle_of_error ports q hd]
  | ok d => simp [result_handle_of_ok ports q hd]

/-- The response to a message answers the directive that the message is. -/
theorem answered_of_handle (given : ((q.handle message).run ports s).result = .ok response) :
    ∃ d, Directive.ofMessage message = .ok d ∧ q.Answered (ports.store s) d response := by
  cases hd : Directive.ofMessage message with
  | error e =>
    rw [result_handle_eq_error_iff.2 hd] at given
    cases given
  | ok d =>
    rw [result_handle_of_ok ports q hd] at given
    cases given
    exact ⟨d, rfl, answered_settle (q.planned_plan _ d) ports s⟩

end Request

end HomeVoice
