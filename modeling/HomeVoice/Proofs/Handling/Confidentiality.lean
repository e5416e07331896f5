import HomeVoice.Proofs.Handling.Answered
import HomeVoice.Proofs.Handling.Dispatch
import HomeVoice.Proofs.Handling.Noninterference

/-!
# What goes wrong inside is not told

An attribute that cannot be used, a directive that is not known, and a store or a hub that fails are
told to the caller in the same two words. So runs in which the outside fails at the same steps, but
for other reasons, give the same answers: the reason stays in the audit.
-/

namespace HomeVoice

variable {σ σ₁ σ₂ : Type}

namespace Refusal

/-- The refusal without what went wrong inside. -/
def hushed : Refusal → Refusal
  | .internal _ => .internal (.described "")
  | refusal => refusal

/-- All that the caller is told when something went wrong inside. -/
def internalPayload : Dict Json :=
  Dict.ofEntries [("type", .str "INTERNAL_ERROR"), ("message", .str "internal error")]

/-- What went wrong inside makes no difference to the answer. -/
theorem refuse_hushed (stamp : Stamp) (d : Directive) (refusal : Refusal) :
    Response.refuse stamp d refusal.hushed = Response.refuse stamp d refusal := by
  cases refusal <;> rfl

theorem Internal.nameSpace {refusal : Refusal} (internal : refusal.Internal) :
    refusal.nameSpace = "Alexa" := by
  cases refusal with
  | internal fault => rfl
  | _ => cases internal

theorem Internal.payload {refusal : Refusal} (internal : refusal.Internal) :
    refusal.payload = internalPayload := by
  cases refusal with
  | internal fault => rfl
  | _ => cases internal

end Refusal

/-! ## Failing alike -/

/-- Two stores fail alike when they fail at the same reads, for whatever reasons, and give the same
at all others. -/
structure Store.FailAlike (store₁ store₂ : Store) : Prop where
  fetch : ∀ id, (store₁.fetch id).toOption = (store₂.fetch id).toOption
  fetchAll : store₁.fetchAll.toOption = store₂.fetchAll.toOption

/-- Ports fail alike when their stores do and they refuse the same calls, for whatever reasons. -/
structure Ports.FailAlike (ports₁ : Ports σ₁) (s₁ : σ₁) (ports₂ : Ports σ₂) (s₂ : σ₂) :
    Prop where
  reads : (ports₁.store s₁).FailAlike (ports₂.store s₂)
  calls : ∀ c context,
    (ports₁.call s₁ c context).1.toOption = (ports₂.call s₂ c context).1.toOption

/-- The plan without what went wrong inside. -/
def Plan.hushed : Plan → Plan
  | .answer result => .answer (result.mapError Refusal.hushed)
  | .call c response => .call c response

namespace Request

variable {q : Request} {d : Directive} {store₁ store₂ : Store} {ports₁ : Ports σ₁} {s₁ : σ₁}
  {ports₂ : Ports σ₂} {s₂ : σ₂}

/-- Looking an entity up in stores that fail alike differs only in what went wrong inside. -/
theorem hushed_lookUp (alike : store₁.FailAlike store₂) (q : Request) (d : Directive) :
    (q.lookUp store₁ d).mapError Refusal.hushed = (q.lookUp store₂ d).mapError Refusal.hushed := by
  unfold lookUp
  cases d.endpoint with
  | none => rfl
  | some ref =>
    simp only
    cases d.target? with
    | none => rfl
    | some id =>
      simp only
      cases q.settings.exposure.exposes id with
      | false => rfl
      | true =>
        rcases cases_of_toOption_eq (alike.fetch id) with
          ⟨e₁, e₂, first, second⟩ | ⟨found, first, second⟩
        · rw [first, second]
          rfl
        · rw [first, second]

theorem hushed_ofFound {found₁ found₂ : Except Refusal (Entity × Endpoint)}
    (same : found₁.mapError Refusal.hushed = found₂.mapError Refusal.hushed)
    (next : Entity → Endpoint → Plan) :
    (Plan.ofFound found₁ next).hushed = (Plan.ofFound found₂ next).hushed := by
  rcases cases_of_mapError_eq same with ⟨e₁, e₂, rfl, rfl, words⟩ | ⟨pair, rfl, rfl⟩
  · exact congrArg (fun refusal => Plan.answer (.error refusal)) words
  · rfl

/-- Plans for stores that fail alike differ only in what went wrong inside. -/
theorem hushed_plan (alike : store₁.FailAlike store₂) (q : Request) (d : Directive) :
    (q.plan store₁ d).hushed = (q.plan store₂ d).hushed := by
  have looked := hushed_lookUp alike q d
  unfold plan
  cases d.kind? with
  | none => rfl
  | some k =>
    simp only
    cases k.route with
    | discover =>
      rcases cases_of_toOption_eq alike.fetchAll with
        ⟨e₁, e₂, first, second⟩ | ⟨entities, first, second⟩
      · rw [first, second]
        rfl
      · rw [first, second]
    | reportState => exact hushed_ofFound looked _
    | control judge => exact hushed_ofFound looked _

/-- Plans that differ only in what went wrong inside are carried out with results that do. -/
theorem hushed_carryOut {plan₁ plan₂ : Plan} (same : plan₁.hushed = plan₂.hushed)
    (alike : Ports.FailAlike ports₁ s₁ ports₂ s₂) (context : RequestContext) :
    (plan₁.carryOut ports₁ context s₁).result.mapError Refusal.hushed =
      (plan₂.carryOut ports₂ context s₂).result.mapError Refusal.hushed := by
  cases plan₁ with
  | answer result₁ =>
    cases plan₂ with
    | answer result₂ => exact Plan.answer.inj same
    | call c response => cases same
  | call c response =>
    cases plan₂ with
    | answer result₂ => cases same
    | call c₂ response₂ =>
      cases same
      simp only [Plan.carryOut]
      rcases cases_of_toOption_eq (alike.calls c context) with
        ⟨e₁, e₂, first, second⟩ | ⟨_, first, second⟩
      · rw [first, second]
        rfl
      · rw [first, second]

/-- Results that differ only in what went wrong inside are answered in the same way. -/
theorem settle_hushed {result₁ result₂ : Except Refusal Response}
    (same : result₁.mapError Refusal.hushed = result₂.mapError Refusal.hushed) (q : Request)
    (d : Directive) : (q.settle d result₁).1 = (q.settle d result₂).1 := by
  rcases cases_of_mapError_eq same with ⟨e₁, e₂, rfl, rfl, hushed⟩ | ⟨response, rfl, rfl⟩
  · show Response.refuse q.stamp d e₁ = Response.refuse q.stamp d e₂
    rw [← Refusal.refuse_hushed, hushed, Refusal.refuse_hushed]
  · rfl

/-- Where the outside fails at the same steps a message is answered in the same way. -/
theorem result_handle_failAlike (alike : Ports.FailAlike ports₁ s₁ ports₂ s₂) (q : Request)
    (message : Json) :
    ((q.handle message).run ports₁ s₁).result = ((q.handle message).run ports₂ s₂).result := by
  cases hd : Directive.ofMessage message with
  | error e => rw [result_handle_eq_error_iff.2 hd, result_handle_eq_error_iff.2 hd]
  | ok d =>
    have carried := hushed_carryOut (hushed_plan alike.reads q d) alike q.context
    rw [result_handle_of_ok _ _ hd, result_handle_of_ok _ _ hd, settle_hushed carried]

/-- The same message at another time, with other fresh ids, is answered in the same way but for
these. -/
theorem result_handle_restamped (q : Request) (stamp : Stamp) (message : Json) (ports : Ports σ)
    (s : σ) :
    ((q.handle message).run ports s).result.map Response.unstamped =
      (((q.restamped stamp).handle message).run ports s).result.map Response.unstamped := by
  cases hd : Directive.ofMessage message with
  | error e => rw [result_handle_eq_error_iff.2 hd, result_handle_eq_error_iff.2 hd]
  | ok d =>
    have agree : (ports.store s).Agree q.settings.exposure (ports.store s) :=
      ⟨fun _ _ => rfl, rfl⟩
    have carried : told ((q.plan (ports.store s) d).carryOut ports q.context s).result =
        told (((q.restamped stamp).plan (ports.store s) d).carryOut ports q.context s).result :=
      told_carryOut (alike_plan agree stamp d) fun _ _ => rfl
    rw [result_handle_of_ok _ _ hd, result_handle_of_ok _ _ hd]
    exact congrArg Except.ok (settle_told carried q stamp d).1

/-- The answer that something went wrong inside says nothing else. -/
theorem Answered.internalPayload {store : Store} {response : Response}
    (answered : q.Answered store d response) (internal : InternalError (.ok response)) :
    response.nameSpace = "Alexa" ∧ response.payload = Refusal.internalPayload := by
  obtain ⟨refusal, rfl⟩ := answered.exists_refusal internal.1
  have internal := internalError_refuse_iff.1 internal
  exact ⟨internal.nameSpace, internal.payload⟩

/-- The caller is not told what went wrong inside. Runs that differ only in the reasons for which
the store or the hub fails, where it fails, give the same answer but for fresh ids and the time; and
whenever the answer is that something went wrong inside, it says just this. -/
theorem handle_confidential (q : Request) (message : Json) :
    (∀ (stamp : Stamp) (ports₁ : Ports σ₁) (s₁ : σ₁) (ports₂ : Ports σ₂) (s₂ : σ₂),
      Ports.FailAlike ports₁ s₁ ports₂ s₂ →
        ((q.handle message).run ports₁ s₁).result.map Response.unstamped =
          (((q.restamped stamp).handle message).run ports₂ s₂).result.map Response.unstamped) ∧
    ∀ (ports : Ports σ) (s : σ) (response : Response),
      ((q.handle message).run ports s).result = .ok response → InternalError (.ok response) →
        response.nameSpace = "Alexa" ∧ response.payload = Refusal.internalPayload := by
  constructor
  · intro stamp ports₁ s₁ ports₂ s₂ alike
    rw [result_handle_failAlike alike, result_handle_restamped]
  · intro ports s response given internal
    obtain ⟨d, -, answered⟩ := answered_of_handle given
    exact answered.internalPayload internal

end Request

/-- A hub that cannot be reached for calls. -/
def Outages.calling (e : HubError) : Outages :=
  { none with call := some e }

/-- Whether a light cannot be turned on because a cable is cut or because nobody knows the service,
the caller is told the same. -/
theorem Request.handle_confidential_desk :
    let q := exposing .all
    let hub := Hub.ofEntities [Entity.desk]
    let ports := Hub.ports ⟨1, 0⟩ (.calling (.collaborator "the cable is cut"))
    let ports' := Hub.ports ⟨1, 0⟩ (.calling (.notFound "service" "turn_on"))
    let message := (Directive.addressed "Alexa.PowerController" "TurnOn" Entity.desk.id).envelope
    let run := (q.handle message).run ports hub
    let run' := ((q.restamped ⟨.zero, .zero, ⟨2, 0⟩⟩).handle message).run ports' hub
    Ports.FailAlike ports hub ports' hub ∧
      run.handed.map AuditEvent.detail ≠ run'.handed.map AuditEvent.detail ∧
      run.result.map Response.unstamped = run'.result.map Response.unstamped ∧
      ∃ response, run.result = .ok response ∧ InternalError (.ok response) ∧
        response.payload = Refusal.internalPayload := by
  intro q hub ports ports' message run run'
  have alike : Ports.FailAlike ports hub ports' hub :=
    ⟨⟨fun _ => rfl, rfl⟩, fun _ _ => rfl⟩
  have confidential := @handle_confidential Hub Hub Hub q message
  have internal : InternalError run.result := ⟨rfl, rfl⟩
  refine ⟨alike, ?_, confidential.1 _ ports hub ports' hub alike, _, rfl, internal,
    (confidential.2 ports hub _ rfl internal).2⟩
  have detail : run.handed.map AuditEvent.detail =
      [some "service call light.turn_on failed: collaborator error"] := rfl
  have detail' : run'.handed.map AuditEvent.detail =
      [some "service call light.turn_on failed: not found"] := rfl
  rw [detail, detail']
  decide

end HomeVoice
