import HomeVoice.Proofs.Control.Decided
import HomeVoice.Proofs.Handling.Plan

/-!
# The ways in which a directive ends

`Request.Planned` has one rule for each way in which the plan for a directive comes about, and
`Request.planned_plan` says that there are no other ways. Theorems about all directives are case
analyses over these rules.
-/

namespace HomeVoice

namespace DirectiveKind

theorem eq_discover_of_route {k : DirectiveKind} (h : k.route = .discover) : k = .discover := by
  cases k <;> simp [route] at h ⊢

theorem eq_reportState_of_route {k : DirectiveKind} (h : k.route = .reportState) :
    k = .reportState := by
  cases k <;> simp [route] at h ⊢

/-- Every directive that controls is about one endpoint. -/
theorem targetsEndpoint_of_route {k : DirectiveKind} {judge : Situation → Except Refusal Outcome}
    (h : k.route = .control judge) : k.targetsEndpoint = true := by
  cases k <;> first | rfl | cases h

end DirectiveKind

namespace Request

variable {q : Request} {store : Store} {d : Directive}

/-- An entity is found when it is named, exposed and stored and becomes an endpoint. -/
theorem lookUp_eq_ok {entity : Entity} {endpoint : Endpoint} :
    q.lookUp store d = .ok (entity, endpoint) ↔
      ∃ id, d.target? = some id ∧ q.settings.exposure.exposes id = true ∧
        store.fetch id = .ok (some entity) ∧
        entity.endpoint? (q.settings.presentation? id) = some endpoint := by
  unfold lookUp Directive.target?
  cases d.endpoint with
  | none => simp
  | some ref =>
    simp only [Option.bind_some]
    cases ref.id.toEntityId.toOption with
    | none => simp
    | some id => grind

/-- The state of an entity that is found is reported. -/
theorem plan_of_reportState {entity : Entity} {endpoint : Endpoint}
    (kind : d.kind? = some .reportState) (found : q.lookUp store d = .ok (entity, endpoint)) :
    q.plan store d = .answer (.ok (q.reported d entity endpoint)) := by
  simp [plan, kind, DirectiveKind.route, found, Plan.ofFound]

/-- When the entities of the store can be read, their endpoints are listed. -/
theorem plan_of_discover {entities : List Entity} (kind : d.kind? = some .discover)
    (read : store.fetchAll = .ok entities) :
    q.plan store d = .answer (.ok (q.discovered d entities)) := by
  simp [plan, kind, DirectiveKind.route, read]

/-- An entity that is not found is told to be no endpoint, unless the store cannot be read. -/
theorem refusal_of_lookUp {ref : EndpointRef} {refusal : Refusal} (about : d.endpoint = some ref)
    (notFound : q.lookUp store d = .error refusal) :
    refusal = .noSuchEndpoint ref.id.text ∨
      ∃ id e, store.fetch id = .error e ∧ refusal = .internal (.storeFailed e) := by
  unfold lookUp at notFound
  simp only [about] at notFound
  cases named : d.target? with
  | none => simp_all
  | some id => grind

/-- How the plan for a directive comes about. -/
inductive Planned (q : Request) (store : Store) (d : Directive) : Plan → Prop
  | unknown (kind : d.kind? = none) :
      Planned q store d
        (.answer (.error (.internal (.unknownDirective d.header.nameSpace d.header.name))))
  | storeFailed {e : HubError} (kind : d.kind? = some .discover)
      (failed : store.fetchAll = .error e) :
      Planned q store d (.answer (.error (.internal (.storeFailed e))))
  | discovered {entities : List Entity} (kind : d.kind? = some .discover)
      (read : store.fetchAll = .ok entities) :
      Planned q store d (.answer (.ok (q.discovered d entities)))
  | notFound {k : DirectiveKind} {refusal : Refusal} (kind : d.kind? = some k)
      (targets : k.targetsEndpoint = true) (notFound : q.lookUp store d = .error refusal) :
      Planned q store d (.answer (.error refusal))
  | reported {entity : Entity} {endpoint : Endpoint} (kind : d.kind? = some .reportState)
      (found : q.lookUp store d = .ok (entity, endpoint)) :
      Planned q store d (.answer (.ok (q.reported d entity endpoint)))
  | notAccepted {k : DirectiveKind} {judge : Situation → Except Refusal Outcome}
      {entity : Entity} {endpoint : Endpoint} (kind : d.kind? = some k)
      (route : k.route = .control judge) (found : q.lookUp store d = .ok (entity, endpoint))
      (notAccepted : endpoint.accepts k = false) :
      Planned q store d (.answer (.error (.notAccepted entity.id k)))
  | refused {k : DirectiveKind} {judge : Situation → Except Refusal Outcome} {entity : Entity}
      {endpoint : Endpoint} {refusal : Refusal} (kind : d.kind? = some k)
      (route : k.route = .control judge) (found : q.lookUp store d = .ok (entity, endpoint))
      (accepted : endpoint.accepts k = true)
      (refused : judge (q.situation d entity) = .error refusal) :
      Planned q store d (.answer (.error refusal))
  | idle {k : DirectiveKind} {judge : Situation → Except Refusal Outcome} {entity : Entity}
      {endpoint : Endpoint} {outcome : Outcome} (kind : d.kind? = some k)
      (route : k.route = .control judge) (found : q.lookUp store d = .ok (entity, endpoint))
      (accepted : endpoint.accepts k = true)
      (decided : judge (q.situation d entity) = .ok outcome) (uncalled : outcome.call = none) :
      Planned q store d (.answer (.ok (q.concluded d entity endpoint outcome)))
  | called {k : DirectiveKind} {judge : Situation → Except Refusal Outcome} {entity : Entity}
      {endpoint : Endpoint} {outcome : Outcome} {c : ServiceCall} (kind : d.kind? = some k)
      (route : k.route = .control judge) (found : q.lookUp store d = .ok (entity, endpoint))
      (accepted : endpoint.accepts k = true)
      (decided : judge (q.situation d entity) = .ok outcome) (called : outcome.call = some c) :
      Planned q store d (.call c (q.concluded d entity endpoint outcome))

/-- The plan for a directive comes about in one of these ways. -/
theorem planned_plan (q : Request) (store : Store) (d : Directive) :
    q.Planned store d (q.plan store d) := by
  unfold plan
  cases kind : d.kind? with
  | none => exact .unknown kind
  | some k =>
    simp only
    cases route : k.route with
    | discover =>
      obtain rfl := DirectiveKind.eq_discover_of_route route
      cases read : store.fetchAll with
      | error e => exact .storeFailed kind read
      | ok entities => exact .discovered kind read
    | reportState =>
      obtain rfl := DirectiveKind.eq_reportState_of_route route
      cases found : q.lookUp store d with
      | error refusal => exact .notFound kind rfl found
      | ok pair => exact .reported kind found
    | control judge =>
      cases found : q.lookUp store d with
      | error refusal =>
        exact .notFound kind (DirectiveKind.targetsEndpoint_of_route route) found
      | ok pair =>
        obtain ⟨entity, endpoint⟩ := pair
        simp only [Plan.ofFound, planControl]
        cases accepted : endpoint.accepts k with
        | false => exact .notAccepted kind route found accepted
        | true =>
          simp only [if_true]
          cases decided : judge (q.situation d entity) with
          | error refusal => exact .refused kind route found accepted decided
          | ok outcome =>
            cases called : outcome.call with
            | none =>
              simpa only [called] using Planned.idle kind route found accepted decided called
            | some c =>
              simpa only [called] using Planned.called kind route found accepted decided called

end Request

end HomeVoice
