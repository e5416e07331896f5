import HomeVoice.Proofs.Handling.Planned
import HomeVoice.Proofs.Hub.Frame

/-!
# What messages do to a hub

A message changes the hub only by the call that it makes. So one that is refused, and one that only
asks, leaves the hub as it was, and any other changes the entity that it addresses and no other.
-/

namespace HomeVoice

/-- What comes of a message without anything having been done: it is refused, or the answer is an
error, a list of endpoints or a report of state. -/
def NothingDone : Except ProtocolError Response → Prop
  | .error _ => True
  | .ok response =>
    response.name = Response.errorName ∨ response.name = "Discover.Response" ∨
      response.name = "StateReport"

namespace Request

variable {q : Request} {d : Directive} {now : Timestamp} {outages : Outages} {hub : Hub}

/-! ## What the answers say -/

theorem nothingDone_refuse (stamp : Stamp) (d : Directive) (refusal : Refusal) :
    NothingDone (.ok (Response.refuse stamp d refusal)) :=
  .inl rfl

/-- The answer to a control that succeeds says that something was done. -/
theorem not_nothingDone_concluded {entity : Entity} {endpoint : Endpoint} {k : DirectiveKind}
    {o : Outcome} (decided : Control.Decided (q.situation d entity) k o) :
    ¬NothingDone (.ok (q.concluded d entity endpoint o)) := by
  show ¬(o.name = Response.errorName ∨ o.name = "Discover.Response" ∨ o.name = "StateReport")
  rcases decided.name with name | name | name <;> simp [name, Response.errorName]

/-! ## What the runs do -/

theorem result_finish (plan : Plan) :
    (q.finish (Hub.ports now outages) d plan hub).result =
      .ok (q.settle d (plan.carryOut (Hub.ports now outages) q.context hub).result).1 :=
  rfl

/-- An entity that the hub has for a directive is the one that the directive names. -/
theorem target_eq_of_lookUp {entity : Entity} {endpoint : Endpoint}
    (found : q.lookUp ((Hub.ports now outages).store hub) d = .ok (entity, endpoint)) :
    d.target? = some entity.id := by
  obtain ⟨id, named, -, stored, -⟩ := lookUp_eq_ok.1 found
  rw [named, Hub.id_of_ports_fetch hub now outages stored]

/-- A planned call that fails is answered by an error and has not changed the hub; one that
succeeds is answered as planned and changes the entity that it targets and no other. -/
theorem finish_call (q : Request) (d : Directive) (now : Timestamp) (outages : Outages) (hub : Hub)
    (c : ServiceCall) (response : Response) :
    let run := q.finish (Hub.ports now outages) d (.call c response) hub
    (NothingDone run.result ∧ run.state = hub) ∨
      (run.result = .ok response ∧ Hub.Frame c.target hub run.state) := by
  intro run
  cases called : ((Hub.ports now outages).call hub c q.context).1 with
  | error e =>
    have refused : run.result =
        .ok (Response.refuse q.stamp d (.internal (.callFailed c.qualifiedName e))) := by
      simp [run, result_finish, Plan.carryOut, called, settle]
    left
    rw [refused]
    exact ⟨nothingDone_refuse .., Hub.eq_of_ports_call_error called⟩
  | ok _ =>
    right
    refine ⟨?_, Hub.frame_of_call_eq_ok (Hub.call_of_ports_call_ok called)⟩
    simp [run, result_finish, Plan.carryOut, called, settle]

/-- A directive that comes to nothing leaves the hub as it was; any other changes at most the
entity that it addresses. -/
theorem frame_finish {plan : Plan}
    (planned : q.Planned ((Hub.ports now outages).store hub) d plan) :
    let run := q.finish (Hub.ports now outages) d plan hub
    (NothingDone run.result → run.state = hub) ∧
      (¬NothingDone run.result → ∃ id, d.target? = some id ∧ Hub.Frame id hub run.state) := by
  cases planned with
  | unknown | storeFailed | notFound | notAccepted | refused =>
    exact ⟨fun _ => rfl, fun done => absurd (nothingDone_refuse q.stamp d _) done⟩
  | discovered => exact ⟨fun _ => rfl, fun done => absurd (.inr (.inl rfl)) done⟩
  | reported => exact ⟨fun _ => rfl, fun done => absurd (.inr (.inr rfl)) done⟩
  | idle kind route found =>
    exact ⟨fun _ => rfl, fun _ => ⟨_, target_eq_of_lookUp found, .refl _ hub⟩⟩
  | @called k judge entity endpoint outcome c kind route found accepted decided called =>
    intro run
    have rule := Control.decided_of_ok route decided
    have targets : c.target = entity.id := rule.target called
    rcases q.finish_call d now outages hub c (q.concluded d entity endpoint outcome) with
      ⟨nothing, unchanged⟩ | ⟨concluded, frame⟩
    · exact ⟨fun _ => unchanged, fun done => absurd nothing done⟩
    · have something : ¬NothingDone run.result := by
        rw [show run.result = _ from concluded]
        exact not_nothingDone_concluded rule
      refine ⟨fun nothing => absurd nothing something, fun _ => ?_⟩
      exact ⟨entity.id, target_eq_of_lookUp found, targets ▸ frame⟩

/-- A message that is refused, or answered by an error, a list of endpoints or a report of state,
leaves the hub exactly as it was. Any other leaves every entity but the addressed one as it was, and
the hub with the same ids. -/
theorem handle_frame (q : Request) (message : Json) (now : Timestamp) (outages : Outages)
    (hub : Hub) :
    let run := (q.handle message).run (Hub.ports now outages) hub
    (NothingDone run.result → run.state = hub) ∧
    (¬NothingDone run.result →
      ∃ d id, Directive.ofMessage message = .ok d ∧ d.target? = some id ∧
        Hub.Frame id hub run.state) := by
  intro run
  cases hd : Directive.ofMessage message with
  | error e =>
    have noDirective : run = ⟨.error e, hub, []⟩ := q.run_handle_of_error _ hd hub
    simp [noDirective, NothingDone]
  | ok d =>
    have carried : run = _ := q.run_handle_of_ok _ hd hub
    obtain ⟨nothing, something⟩ := frame_finish (q.planned_plan _ d)
    rw [carried]
    refine ⟨nothing, ?_⟩
    intro done
    obtain ⟨id, named, frame⟩ := something done
    exact ⟨d, id, rfl, named, frame⟩

end Request

end HomeVoice
