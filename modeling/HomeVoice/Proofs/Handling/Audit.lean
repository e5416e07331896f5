import HomeVoice.Proofs.Discovery.Agreement
import HomeVoice.Proofs.Handling.Dispatch

/-!
# Every answer is recorded

A directive that is answered leaves one audit event, whatever has come of it, and a message that is
no directive leaves none. The event says what was asked and of which entity, what was answered, and
who asked. It has a detail exactly when something went wrong inside, which the answer itself does
not explain. A publisher that fails is not noticed by the caller.
-/

namespace HomeVoice

variable {σ : Type}

/-- The event records a directive and the response to it. -/
structure AuditEvent.Records (event : AuditEvent) (q : Request) (d : Directive)
    (response : Response) : Prop where
  nameSpace : event.request.nameSpace = d.header.nameSpace
  name : event.request.name = d.header.name
  /-- The entity is the one that the endpoint id leads to, whether it is exposed and stored or
  not. -/
  entity : ∀ id, event.request.entity = some id ↔
    ∃ ref, d.endpoint = some ref ∧ ref.id.toEntityId = .ok id
  answer : event.response = ⟨response.nameSpace, response.name⟩
  context : event.context = q.context
  detail : event.detail.isSome = true ↔ InternalError (.ok response)

/-- The same ports with another publisher. -/
def Ports.publishing (ports : Ports σ)
    (publish : σ → AuditEvent → Except HubError Unit × σ) : Ports σ :=
  { ports with publish }

theorem Refusal.isSome_detail?_iff {refusal : Refusal} :
    refusal.detail?.isSome = true ↔ refusal.Internal := by
  cases refusal <;> simp [detail?, Internal]

namespace Request

variable {q : Request} {d : Directive} {plan : Plan} {ports : Ports σ} {s : σ}

/-- What is answered unless it is refused is no error. -/
theorem name_ne_of_carryOut_eq_ok (planned : q.Planned (ports.store s) d plan)
    {response : Response} (carried : (plan.carryOut ports q.context s).result = .ok response) :
    response.name ≠ Response.errorName := by
  cases planned with
  | unknown | storeFailed | notFound | notAccepted | refused => cases carried
  | discovered | reported =>
    cases carried
    simp [discovered, reported, Response.reply, Response.withPayload, Response.withReadings,
      Response.errorName]
  | idle kind route found accepted decided =>
    cases carried
    exact (Control.decided_of_ok route decided).name_ne
  | @called k judge entity endpoint outcome c kind route found accepted decided =>
    simp only [Plan.carryOut] at carried
    cases called : (ports.call s c q.context).1 with
    | error e =>
      rw [called] at carried
      cases carried
    | ok _ =>
      rw [called] at carried
      cases carried
      exact (Control.decided_of_ok route decided).name_ne

/-- The audit is told a detail exactly when something went wrong inside. -/
theorem isSome_settle_iff (planned : q.Planned (ports.store s) d plan) :
    let settled := q.settle d (plan.carryOut ports q.context s).result
    settled.2.isSome = true ↔ InternalError (.ok settled.1) := by
  intro settled
  cases carried : (plan.carryOut ports q.context s).result with
  | error refusal =>
    have refused : settled = (Response.refuse q.stamp d refusal, refusal.detail?) :=
      congrArg (q.settle d) carried
    rw [refused, internalError_refuse_iff, Refusal.isSome_detail?_iff]
  | ok response =>
    have answered : settled = (response, none) := congrArg (q.settle d) carried
    have noError := not_internalError_of_name_ne (name_ne_of_carryOut_eq_ok planned carried)
    rw [answered]
    exact iff_of_false Bool.false_ne_true noError

/-- What is recorded of a plan that is carried out records the directive and its answer. -/
theorem records_record (planned : q.Planned (ports.store s) d plan) :
    let result := (plan.carryOut ports q.context s).result
    (q.record d result).Records q d (q.settle d result).1 where
  nameSpace := rfl
  name := rfl
  entity _ := Directive.target?_eq_some_iff
  answer := rfl
  context := rfl
  detail := isSome_settle_iff planned

/-- Before the publisher is asked, a directive is carried out in the same way whoever it is. -/
theorem finish_publishing (q : Request) (ports : Ports σ) (d : Directive) (plan : Plan) (s : σ)
    (publish : σ → AuditEvent → Except HubError Unit × σ) :
    let run := q.finish ports d plan s
    let run' := q.finish (ports.publishing publish) d plan s
    run'.result = run.result ∧ run'.calls = run.calls ∧ run'.handed = run.handed := by
  cases plan <;> exact ⟨rfl, rfl, rfl⟩

theorem handle_publishing (ports : Ports σ) (q : Request) (message : Json) (s : σ)
    (publish : σ → AuditEvent → Except HubError Unit × σ) :
    let run := (q.handle message).run ports s
    let run' := (q.handle message).run (ports.publishing publish) s
    run'.result = run.result ∧ run'.calls = run.calls ∧ run'.handed = run.handed := by
  intro run run'
  cases hd : Directive.ofMessage message with
  | error e =>
    have untouched : run = ⟨.error e, s, []⟩ := run_handle_of_error ports q hd s
    have untouched' : run' = ⟨.error e, s, []⟩ :=
      run_handle_of_error (ports.publishing publish) q hd s
    rw [untouched, untouched']
    exact ⟨rfl, rfl, rfl⟩
  | ok d =>
    have store : (ports.publishing publish).store s = ports.store s := rfl
    have reads := q.isRead_of_mem_reads (ports.store s) d
    have carried : run = _ := run_handle_of_ok ports q hd s
    have carried' : run' = _ := run_handle_of_ok (ports.publishing publish) q hd s
    obtain ⟨result, calls, handed⟩ :=
      finish_publishing q ports d (q.plan (ports.store s) d) s publish
    rw [carried, carried', store, Run.calls_afterAll reads, Run.calls_afterAll reads,
      Run.handed_afterAll reads, Run.handed_afterAll reads]
    exact ⟨result, calls, handed⟩

/-- Every answer is recorded, and nothing else is. A protocol error leaves no event; a response
leaves one, which records the directive and the very response that is given. Whether and how events
are published changes neither the response nor the call that is made. -/
theorem handle_audited (q : Request) (ports : Ports σ) (s : σ) (message : Json) :
    let run := (q.handle message).run ports s
    (∀ e, run.result = .error e → run.handed = []) ∧
    (∀ response, run.result = .ok response → ∃ d event, Directive.ofMessage message = .ok d ∧
      run.handed = [event] ∧ event.Records q d response) ∧
    ∀ publish, let run' := (q.handle message).run (ports.publishing publish) s
      run'.result = run.result ∧ run'.calls = run.calls ∧ run'.handed = run.handed := by
  intro run
  refine ⟨?_, ?_, handle_publishing ports q message s⟩
  · intro e failed
    cases hd : Directive.ofMessage message with
    | error e' =>
      have untouched : run = ⟨.error e', s, []⟩ := run_handle_of_error ports q hd s
      rw [untouched]
      rfl
    | ok d =>
      have answered : run.result = _ := congrArg Run.result (run_handle_of_ok ports q hd s)
      cases answered.symm.trans failed
  · intro response answered
    cases hd : Directive.ofMessage message with
    | error e =>
      have refused : run.result = .error e :=
        congrArg Run.result (run_handle_of_error ports q hd s)
      cases refused.symm.trans answered
    | ok d =>
      have carried : run = _ := run_handle_of_ok ports q hd s
      rw [carried] at answered
      obtain rfl : (q.settle d _).1 = response := Except.ok.inj answered
      refine ⟨d, _, rfl, ?_, records_record (q.planned_plan (ports.store s) d)⟩
      rw [carried, Run.handed_afterAll (q.isRead_of_mem_reads _ d), handed_finish]

end Request

end HomeVoice
