import HomeVoice.Proofs.Control.Refused
import HomeVoice.Proofs.Handling.Planned
import HomeVoice.Proofs.Protocol.Response

/-!
# When an endpoint is denied

An answer denies an endpoint when it says that there is none. This is so exactly of directives
about one that is not found: once the entity is found, nothing that goes wrong with it is told in
this way.
-/

namespace HomeVoice

variable {σ : Type}

/-- What comes of a message denies that there is the endpoint. -/
def Denied : Except ProtocolError Response → Prop
  | .ok response =>
    response.name = Response.errorName ∧
      response.payload.get? "type" = some (.str "NO_SUCH_ENDPOINT")
  | .error _ => False

namespace Refusal

theorem kind_eq_noSuchEndpoint_iff {refusal : Refusal} :
    refusal.kind = "NO_SUCH_ENDPOINT" ↔ ¬refusal.Admits := by
  cases refusal <;> simp [kind, Admits]

end Refusal

theorem denied_refuse_iff {stamp : Stamp} {d : Directive} {refusal : Refusal} :
    Denied (.ok (Response.refuse stamp d refusal)) ↔ ¬refusal.Admits := by
  have type : (Response.refuse stamp d refusal).payload.get? "type" = some (.str refusal.kind) :=
    refusal.get?_type_payload
  rw [← Refusal.kind_eq_noSuchEndpoint_iff, Denied, type]
  simp [Response.refuse, Response.reply, Response.withPayload]

theorem not_denied_of_name_ne {response : Response} (name : response.name ≠ Response.errorName) :
    ¬Denied (.ok response) := by
  rintro ⟨error, -⟩
  exact name error

namespace Request

variable {q : Request} {d : Directive} {store : Store} {ports : Ports σ} {s : σ}

/-- A directive about an endpoint that is not found is refused as the look-up was. -/
theorem plan_of_notFound {k : DirectiveKind} {refusal : Refusal} (kind : d.kind? = some k)
    (targets : k.targetsEndpoint = true) (notFound : q.lookUp store d = .error refusal) :
    q.plan store d = .answer (.error refusal) := by
  unfold plan
  simp only [kind, notFound]
  cases route : k.route with
  | discover =>
    obtain rfl := DirectiveKind.eq_discover_of_route route
    cases targets
  | reportState => rfl
  | control judge => rfl

theorem denied_of_notFound {k : DirectiveKind} {refusal : Refusal} (kind : d.kind? = some k)
    (targets : k.targetsEndpoint = true) (notFound : q.lookUp (ports.store s) d = .error refusal)
    (denies : ¬refusal.Admits) :
    Denied (q.finish ports d (q.plan (ports.store s) d) s).result := by
  rw [plan_of_notFound kind targets notFound]
  exact denied_refuse_iff.2 denies

/-- Nothing that goes wrong with an entity that was found is told as if there were none. -/
theorem not_denied_of_found {entity : Entity} {endpoint : Endpoint}
    (found : q.lookUp (ports.store s) d = .ok (entity, endpoint)) :
    ¬Denied (q.finish ports d (q.plan (ports.store s) d) s).result := by
  have refuse (refusal : Refusal) (admits : refusal.Admits) :
      ¬Denied (.ok (Response.refuse q.stamp d refusal)) :=
    fun denied => denied_refuse_iff.1 denied admits
  have planned := q.planned_plan (ports.store s) d
  generalize q.plan (ports.store s) d = plan at planned
  cases planned with
  | unknown | storeFailed | notAccepted => exact refuse _ trivial
  | discovered =>
    exact not_denied_of_name_ne (show "Discover.Response" ≠ Response.errorName by decide)
  | reported => exact not_denied_of_name_ne (show "StateReport" ≠ Response.errorName by decide)
  | notFound _ _ notFound => cases found.symm.trans notFound
  | refused _ route _ _ refused => exact refuse _ (Control.admitting_decide _ route _ refused)
  | @idle k judge entity endpoint outcome kind route _ _ decided =>
    have name := (Control.decided_of_ok route decided).name_ne
    exact not_denied_of_name_ne name
  | @called k judge entity endpoint outcome c kind route _ _ decided =>
    have name := (Control.decided_of_ok route decided).name_ne
    show ¬Denied (.ok (q.settle d (Plan.carryOut ports q.context s (.call c _)).result).1)
    simp only [Plan.carryOut]
    cases (ports.call s c q.context).1 with
    | error e => exact refuse _ trivial
    | ok _ => exact not_denied_of_name_ne name

end Request

end HomeVoice
