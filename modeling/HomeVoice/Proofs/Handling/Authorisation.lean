import HomeVoice.Proofs.Discovery.Endpoint
import HomeVoice.Proofs.Handling.Planned
import HomeVoice.Proofs.Hub.Frame
import HomeVoice.Proofs.Protocol.Envelope

/-!
# Authorisation

A service is called only for a directive that controls, names an entity that is exposed and stored,
and is accepted by an interface of its endpoint. The call is then on that entity, in its own domain
or, for a group, in the generic one.
-/

namespace HomeVoice

variable {σ : Type}

namespace Request

/-- A directive may control an entity: it is of a known kind and names an entity that is exposed
and stored, and some interface of the endpoint that the entity becomes accepts the kind. -/
structure Authorised (q : Request) (store : Store) (d : Directive) (k : DirectiveKind)
    (id : EntityId) (entity : Entity) (endpoint : Endpoint) : Prop where
  kind : d.kind? = some k
  named : d.target? = some id
  exposed : q.settings.exposure.exposes id = true
  stored : store.fetch id = .ok (some entity)
  shown : entity.endpoint? (q.settings.presentation? id) = some endpoint
  accepted : endpoint.accepts k = true

theorem exists_authorised {q : Request} {store : Store} {d : Directive} {k : DirectiveKind}
    {entity : Entity} {endpoint : Endpoint} (kind : d.kind? = some k)
    (found : q.lookUp store d = .ok (entity, endpoint)) (accepted : endpoint.accepts k = true) :
    ∃ id, q.Authorised store d k id entity endpoint := by
  obtain ⟨id, named, exposed, stored, shown⟩ := lookUp_eq_ok.1 found
  exact ⟨id, kind, named, exposed, stored, shown, accepted⟩

theorem Authorised.found {q : Request} {store : Store} {d : Directive} {k : DirectiveKind}
    {id : EntityId} {entity : Entity} {endpoint : Endpoint}
    (auth : q.Authorised store d k id entity endpoint) :
    q.lookUp store d = .ok (entity, endpoint) :=
  lookUp_eq_ok.2 ⟨id, auth.named, auth.exposed, auth.stored, auth.shown⟩

/-- A call is planned exactly when the directive is authorised and the control decides on it. -/
theorem plan_eq_call {q : Request} {store : Store} {d : Directive} {c : ServiceCall}
    {response : Response} :
    q.plan store d = .call c response ↔
      ∃ k judge id entity endpoint outcome,
        q.Authorised store d k id entity endpoint ∧ k.route = .control judge ∧
        judge (q.situation d entity) = .ok outcome ∧ outcome.call = some c ∧
        q.concluded d entity endpoint outcome = response := by
  constructor
  · intro h
    have planned := q.planned_plan store d
    rw [h] at planned
    cases planned with
    | called kind route found accepted decided called =>
      obtain ⟨id, auth⟩ := exists_authorised kind found accepted
      exact ⟨_, _, id, _, _, _, auth, route, decided, called, rfl⟩
  · rintro ⟨k, judge, id, entity, endpoint, outcome, auth, route, decided, called, rfl⟩
    simp [plan, auth.kind, route, auth.found, Plan.ofFound, planControl, auth.accepted, decided,
      called]

variable {q : Request} {store : Store} {d : Directive} {k : DirectiveKind} {id : EntityId}
  {entity : Entity} {endpoint : Endpoint}

/-! ## What comes of directives that may control -/

section Authorised

variable {judge : Situation → Except Refusal Outcome} {o : Outcome} {c : ServiceCall}
  {refusal : Refusal}

theorem Authorised.plan_of_ok (auth : q.Authorised store d k id entity endpoint)
    (route : k.route = .control judge) (decided : judge (q.situation d entity) = .ok o)
    (called : o.call = some c) : q.plan store d = .call c (q.concluded d entity endpoint o) :=
  plan_eq_call.2 ⟨k, judge, id, entity, endpoint, o, auth, route, decided, called, rfl⟩

theorem Authorised.plan_of_error (auth : q.Authorised store d k id entity endpoint)
    (route : k.route = .control judge) (refused : judge (q.situation d entity) = .error refusal) :
    q.plan store d = .answer (.error refusal) := by
  simp [plan, auth.kind, route, auth.found, Plan.ofFound, planControl, auth.accepted, refused]

variable {ports : Ports σ} {s : σ} {message : Json}

/-- What is decided on is called, and is the answer when the call succeeds. -/
theorem Authorised.handle_of_ok (auth : q.Authorised (ports.store s) d k id entity endpoint)
    (hd : Directive.ofMessage message = .ok d) (route : k.route = .control judge)
    (decided : judge (q.situation d entity) = .ok o) (called : o.call = some c) :
    ((q.handle message).run ports s).calls = [(c, q.context)] ∧
      ((ports.call s c q.context).1 = .ok () →
        ((q.handle message).run ports s).result = .ok (q.concluded d entity endpoint o)) := by
  rw [run_handle_of_ok ports q hd, auth.plan_of_ok route decided called,
    Run.calls_afterAll (q.isRead_of_mem_reads _ d), calls_finish]
  refine ⟨rfl, fun accepted => ?_⟩
  simp only [finish, Plan.carryOut, Run.afterAll, accepted, settle]

/-- What is refused is not called, and the answer is the refusal. -/
theorem Authorised.handle_of_error (auth : q.Authorised (ports.store s) d k id entity endpoint)
    (hd : Directive.ofMessage message = .ok d) (route : k.route = .control judge)
    (refused : judge (q.situation d entity) = .error refusal) :
    ((q.handle message).run ports s).calls = [] ∧
      ((q.handle message).run ports s).result = .ok (Response.refuse q.stamp d refusal) := by
  rw [run_handle_of_ok ports q hd, auth.plan_of_error route refused,
    Run.calls_afterAll (q.isRead_of_mem_reads _ d), calls_finish]
  exact ⟨rfl, rfl⟩

end Authorised

/-! ## Where calls go -/

/-- No endpoint is of the generic domain, which is no domain of devices. -/
theorem Authorised.domainName_ne_generic (auth : q.Authorised store d k id entity endpoint) :
    entity.id.domainName ≠ ServiceCall.genericDomain := by
  intro generic
  refine Entity.domain_ne_other_of_endpoint?_eq_some auth.shown ServiceCall.genericDomain ?_
  rw [Entity.domain, EntityId.domain, generic]
  rfl

/-- A group is called in the generic domain, every other entity in its own. -/
theorem Authorised.call_domain (auth : q.Authorised store d k id entity endpoint) {o : Outcome}
    (decided : Control.Decided (q.situation d entity) k o) {c : ServiceCall}
    (called : o.call = some c) : c.domain = Control.switchingDomain entity := by
  have domain := decided.domain called
  split at domain
  · exact domain
  · next notPower =>
    rw [domain, Control.switchingDomain, if_neg]
    · rfl
    · intro group
      exact notPower (Entity.accepts_of_group auth.shown group auth.accepted)

/-! ## Calls of a message -/

/-- A message commands a call: it is a directive that may control an entity, and the control
decides on the call. -/
def Commands (q : Request) (store : Store) (message : Json) (c : ServiceCall) : Prop :=
  ∃ d k judge id entity endpoint outcome,
    Directive.ofMessage message = .ok d ∧ q.Authorised store d k id entity endpoint ∧
      k.route = .control judge ∧ judge (q.situation d entity) = .ok outcome ∧
      outcome.call = some c

theorem commands_iff {q : Request} {store : Store} {message : Json} {d : Directive}
    (hd : Directive.ofMessage message = .ok d) {c : ServiceCall} :
    q.Commands store message c ↔ ∃ response, q.plan store d = .call c response := by
  constructor
  · rintro ⟨d', k, judge, id, entity, endpoint, outcome, hd', auth, route, decided, called⟩
    cases hd.symm.trans hd'
    exact ⟨_, auth.plan_of_ok route decided called⟩
  · rintro ⟨response, planned⟩
    obtain ⟨k, judge, id, entity, endpoint, outcome, auth, route, decided, called, -⟩ :=
      plan_eq_call.1 planned
    exact ⟨d, k, judge, id, entity, endpoint, outcome, hd, auth, route, decided, called⟩

theorem calls_handle_length_le (ports : Ports σ) (q : Request) (message : Json) (s : σ) :
    ((q.handle message).run ports s).calls.length ≤ 1 := by
  cases hd : Directive.ofMessage message with
  | error e => simp [run_handle_of_error ports q hd, Run.calls]
  | ok d =>
    rw [run_handle_of_ok ports q hd, Run.calls_afterAll (q.isRead_of_mem_reads _ d), calls_finish]
    split <;> simp

/-- The calls of a message are those that it commands. -/
theorem mem_calls_handle_iff (ports : Ports σ) (q : Request) (message : Json) (s : σ)
    (c : ServiceCall) (context : RequestContext) :
    (c, context) ∈ ((q.handle message).run ports s).calls ↔
      context = q.context ∧ q.Commands (ports.store s) message c := by
  cases hd : Directive.ofMessage message with
  | error e =>
    have none : ¬q.Commands (ports.store s) message c := by
      rintro ⟨d, _, _, _, _, _, _, hd', _⟩
      cases hd.symm.trans hd'
    simp [run_handle_of_error ports q hd, Run.calls, none]
  | ok d =>
    rw [run_handle_of_ok ports q hd, Run.calls_afterAll (q.isRead_of_mem_reads _ d), calls_finish,
      commands_iff hd]
    cases q.plan (ports.store s) d with
    | answer result => simp
    | call c' response => simp [and_comm, eq_comm]

/-- The answer to a call that was made is an error exactly when the call failed. -/
theorem isError_iff_call_failed (ports : Ports σ) (q : Request) (message : Json) (s : σ)
    {c : ServiceCall} (commanded : q.Commands (ports.store s) message c) :
    ∃ response, ((q.handle message).run ports s).result = .ok response ∧
      (response.isError = true ↔
        ∃ e, .called c q.context (.error e) ∈ ((q.handle message).run ports s).steps) := by
  obtain ⟨d, k, judge, id, entity, endpoint, outcome, hd, auth, route, decided, called⟩ :=
    commanded
  have notRead : ∀ e, .called c q.context (.error e) ∉ q.reads (ports.store s) d := by
    intro e member
    cases q.isRead_of_mem_reads _ d _ member
  rw [run_handle_of_ok ports q hd, auth.plan_of_ok route decided called]
  simp only [finish, Plan.carryOut, Run.afterAll]
  refine ⟨_, rfl, ?_⟩
  cases (ports.call s c q.context).1 with
  | error e =>
    simp [settle, Response.refuse, Response.reply, Response.withPayload, Response.isError]
  | ok _ =>
    have noError : (q.concluded d entity endpoint outcome).isError = false :=
      decide_eq_false (Control.decided_of_ok route decided).name_ne
    simp [settle, notRead, noError]

/-- Every call is authorised. A message makes at most one call, and makes it exactly when it
commands it: the message is a directive, of a kind that controls, that names an entity which is
exposed, is stored and becomes an endpoint that accepts the kind, and the control decides on the
call. The call then goes to that entity, in the generic domain if it is a group and else in its own,
and is answered by an error exactly when it fails. -/
theorem calls_authorised (q : Request) (ports : Ports σ) (s : σ)
    (faithful : ∀ id entity, ports.fetch s id = .ok (some entity) → entity.id = id)
    (message : Json) :
    let run := (q.handle message).run ports s
    run.calls.length ≤ 1 ∧
    (∀ c context, (c, context) ∈ run.calls ↔
      context = q.context ∧ q.Commands (ports.store s) message c) ∧
    ∀ c context, (c, context) ∈ run.calls →
      (∃ d k id entity endpoint, Directive.ofMessage message = .ok d ∧
        k ≠ .discover ∧ k ≠ .reportState ∧
        q.Authorised (ports.store s) d k id entity endpoint ∧
        c.target = id ∧
        c.domain = (if id.domain = .group then ServiceCall.genericDomain else id.domainName) ∧
        (c.domain = ServiceCall.genericDomain ↔ id.domain = .group)) ∧
      ∃ response, run.result = .ok response ∧
        (response.isError = true ↔ ∃ e, .called c context (.error e) ∈ run.steps) := by
  intro run
  refine ⟨q.calls_handle_length_le ports message s, q.mem_calls_handle_iff ports message s, ?_⟩
  intro c context member
  obtain ⟨rfl, commanded⟩ := (q.mem_calls_handle_iff ports message s c context).1 member
  refine ⟨?_, q.isError_iff_call_failed ports message s commanded⟩
  obtain ⟨d, k, judge, id, entity, endpoint, outcome, hd, auth, route, decided, called⟩ :=
    commanded
  have rule := Control.decided_of_ok route decided
  obtain rfl : entity.id = id := faithful id entity auth.stored
  have domain := auth.call_domain rule called
  refine ⟨d, k, entity.id, entity, endpoint, hd, ?_, ?_, auth, rule.target called, domain, ?_⟩
  · rintro rfl; cases route
  · rintro rfl; cases route
  · rw [domain, Control.switchingDomain]
    have := auth.domainName_ne_generic
    split <;> simp_all [Entity.domain]

end Request

/-- A group that is off. -/
def Entity.downstairs : Entity :=
  ⟨⟨"group", "downstairs", by decide, by decide, by decide⟩, "off", .empty, ⟨0, 0⟩⟩

/-- The message that turns the group on. -/
def Directive.turnOnDownstairs : Json :=
  (addressed "Alexa.PowerController" "TurnOn" Entity.downstairs.id).envelope

/-- A group that is turned on gets one call, in the generic domain. -/
theorem Request.calls_authorised_group :
    let q := exposing .all
    let hub := Hub.ofEntities [Entity.downstairs]
    let ports := Hub.ports ⟨1, 0⟩ .none
    let run := (q.handle Directive.turnOnDownstairs).run ports hub
    let call : ServiceCall := ⟨"hub", "turn_on", Entity.downstairs.id, []⟩
    (∀ id entity, ports.fetch hub id = .ok (some entity) → entity.id = id) ∧
      run.calls = [(call, q.context)] ∧
      q.Commands (ports.store hub) Directive.turnOnDownstairs call ∧
      ∃ response, run.result = .ok response ∧
        (response.isError = true ↔ ∃ e, .called call q.context (.error e) ∈ run.steps) := by
  intro q hub ports run call
  have faithful : ∀ id entity, ports.fetch hub id = .ok (some entity) → entity.id = id :=
    fun _ _ => Hub.id_of_ports_fetch hub ⟨1, 0⟩ .none
  obtain ⟨-, commanded, authorised⟩ :=
    calls_authorised q ports hub faithful Directive.turnOnDownstairs
  have calls : run.calls = [(call, q.context)] := rfl
  have made : (call, q.context) ∈ run.calls := by
    rw [calls]
    exact List.mem_singleton.2 rfl
  exact ⟨faithful, calls, ((commanded _ _).1 made).2, (authorised _ _ made).2⟩

end HomeVoice
