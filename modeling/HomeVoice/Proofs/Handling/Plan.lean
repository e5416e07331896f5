import HomeVoice.Bridge.Handle
import HomeVoice.Proofs.Exchange
import HomeVoice.Proofs.Fallible

/-!
# Plans

Handling a directive reads the store, decides, and makes at most one call. What is decided depends
on nothing but the settings, the directive and what the store answered, so it is a pure function,
`Request.plan`. `run_execute` and `run_handle_of_ok` say that handling does what the plan says, and
the theorems about handling are stated for plans first.
-/

namespace HomeVoice

variable {σ : Type}

/-- What a store answers when it is read. -/
structure Store where
  fetch : EntityId → Except HubError (Option Entity)
  fetchAll : Except HubError (List Entity)

/-- The store that ports are in a state. -/
def Ports.store (ports : Ports σ) (s : σ) : Store :=
  ⟨ports.fetch s, ports.fetchAll s⟩

/-- What a directive comes to: an answer, or a call and the answer that is given unless the call
fails. -/
inductive Plan where
  | answer (result : Except Refusal Response)
  | call (call : ServiceCall) (response : Response)

/-- The plan for an entity that has been looked up. -/
def Plan.ofFound (found : Except Refusal (Entity × Endpoint)) (next : Entity → Endpoint → Plan) :
    Plan :=
  match found with
  | .error refusal => .answer (.error refusal)
  | .ok (entity, endpoint) => next entity endpoint

/-- The result of a plan to call, from the reply to the call. -/
def Plan.callResult (c : ServiceCall) (response : Response) :
    Except HubError Unit → Except Refusal Response
  | .ok () => .ok response
  | .error e => .error (.internal (.callFailed c.qualifiedName e))

/-- A plan as what is left to be done. -/
def Plan.exchange (context : RequestContext) : Plan → Exchange (Except Refusal Response)
  | .answer result => .done result
  | .call c response => .call c context fun r => .done (callResult c response r)

/-- Carries out a plan from a state. -/
def Plan.carryOut (ports : Ports σ) (context : RequestContext) (s : σ) :
    Plan → Run σ (Except Refusal Response)
  | .answer result => ⟨result, s, []⟩
  | .call c response =>
    let (r, s') := ports.call s c context
    let result := match r with
      | .ok () => .ok response
      | .error e => .error (.internal (.callFailed c.qualifiedName e))
    ⟨result, s', [.called c context r]⟩

theorem Plan.run_exchange (ports : Ports σ) (context : RequestContext) (s : σ) (plan : Plan) :
    (plan.exchange context).run ports s = plan.carryOut ports context s := by
  cases plan with
  | answer result => rfl
  | call c response =>
    simp only [exchange, carryOut, Exchange.run, Run.after]
    cases (ports.call s c context).1 <;> rfl

/-! ## One read -/

namespace Exchange

variable {α β : Type}

/-- What is left of an exchange once its first step, if it is a read, has been answered from a
store. -/
def answered (store : Store) : Exchange α → Exchange α
  | .fetch id next => next (store.fetch id)
  | .fetchAll next => next store.fetchAll
  | x => x

/-- The first step of an exchange, if it is a read. -/
def reading (store : Store) : Exchange α → List ExchangeStep
  | .fetch id _ => [.fetched id (store.fetch id)]
  | .fetchAll _ => [.fetchedAll store.fetchAll]
  | _ => []

theorem run_eq_answered (ports : Ports σ) (x : Exchange α) (s : σ) :
    x.run ports s =
      ((x.answered (ports.store s)).run ports s).afterAll (x.reading (ports.store s)) := by
  cases x <;> rfl

/-- The first read of a composed exchange is one of its first part, if the second part has none. -/
theorem answered_bind {f : α → Exchange β} {store : Store}
    (unread : ∀ a, (f a).answered store = f a) (x : Exchange α) :
    (x.bind f).answered store = (x.answered store).bind f := by
  cases x with
  | done a => exact unread a
  | fetch | fetchAll | call | publish => rfl

end Exchange

/-- Nothing is left to be read once there is a plan. -/
theorem Plan.answered_exchange (context : RequestContext) (plan : Plan) (store : Store) :
    (plan.exchange context).answered store = plan.exchange context := by
  cases plan <;> rfl

namespace Request

/-- A request under a policy of exposure, with no other settings. -/
def exposing (exposure : Exposure) : Request :=
  ⟨⟨exposure, [], .celsius⟩, ⟨.zero, none⟩, ⟨.zero, .zero, ⟨0, 0⟩⟩⟩

/-- The entity that a directive is about, and its endpoint, as a store has them. -/
def lookUp (q : Request) (store : Store) (d : Directive) : Except Refusal (Entity × Endpoint) :=
  match d.endpoint with
  | none => .error .withoutEndpoint
  | some ref =>
    let unknown := Refusal.noSuchEndpoint ref.id.text
    match d.target? with
    | none => .error unknown
    | some id =>
      if q.settings.exposure.exposes id then
        match store.fetch id with
        | .error e => .error (.internal (.storeFailed e))
        | .ok none => .error unknown
        | .ok (some entity) =>
          match entity.endpoint? (q.settings.presentation? id) with
          | none => .error unknown
          | some endpoint => .ok (entity, endpoint)
      else .error unknown

/-- The reads that looking an entity up takes: one, and none of an entity that is hidden. -/
def lookUpSteps (q : Request) (store : Store) (d : Directive) : List ExchangeStep :=
  match d.target? with
  | none => []
  | some id => if q.settings.exposure.exposes id then [.fetched id (store.fetch id)] else []

/-- The answer that lists endpoints. -/
def discovered (q : Request) (d : Directive) (entities : List Entity) : Response :=
  (Response.reply q.stamp d "Alexa.Discovery" "Discover.Response").withPayload
    [("endpoints", .arr ((q.settings.endpoints entities).map Endpoint.toJson))]

/-- The answer that reports the state of an entity. -/
def reported (q : Request) (d : Directive) (entity : Entity) (endpoint : Endpoint) : Response :=
  (Response.reply q.stamp d "Alexa" "StateReport").withReadings
    (entity.retrievable q.settings.unit endpoint)

/-- The situation in which a directive meets an entity. -/
def situation (q : Request) (d : Directive) (entity : Entity) : Situation :=
  ⟨entity, d.payload, q.settings.unit, q.stamp.now⟩

/-- The answer that an outcome asks for. -/
def concluded (q : Request) (d : Directive) (entity : Entity) (endpoint : Endpoint)
    (o : Outcome) : Response :=
  ((Response.reply q.stamp d o.nameSpace o.name).withPayload o.payload).withReadings
    (addReadings o.readings (entity.proactive q.settings.unit endpoint))

/-- The plan for controlling an entity. -/
def planControl (q : Request) (d : Directive) (k : DirectiveKind)
    (judge : Situation → Except Refusal Outcome) (entity : Entity) (endpoint : Endpoint) : Plan :=
  if endpoint.accepts k then
    match judge (q.situation d entity) with
    | .error refusal => .answer (.error refusal)
    | .ok outcome =>
      match outcome.call with
      | some call => .call call (q.concluded d entity endpoint outcome)
      | none => .answer (.ok (q.concluded d entity endpoint outcome))
  else .answer (.error (.notAccepted entity.id k))

/-- The plan for a directive. -/
def plan (q : Request) (store : Store) (d : Directive) : Plan :=
  match d.kind? with
  | none => .answer (.error (.internal (.unknownDirective d.header.nameSpace d.header.name)))
  | some k =>
    match k.route with
    | .discover =>
      match store.fetchAll with
      | .error e => .answer (.error (.internal (.storeFailed e)))
      | .ok entities => .answer (.ok (q.discovered d entities))
    | .reportState => .ofFound (q.lookUp store d) fun entity endpoint =>
      .answer (.ok (q.reported d entity endpoint))
    | .control judge => .ofFound (q.lookUp store d) (q.planControl d k judge)

/-- The reads that a directive takes. -/
def reads (q : Request) (store : Store) (d : Directive) : List ExchangeStep :=
  match d.kind? with
  | none => []
  | some k =>
    match k.route with
    | .discover => [.fetchedAll store.fetchAll]
    | .reportState | .control _ => q.lookUpSteps store d

/-! ## Attempts -/

variable {q : Request} {d : Directive} {store : Store}

/-- Looking an entity up takes the reads that it takes, whatever comes after. -/
theorem reading_resolve_bind (f : Entity × Endpoint → Attempt Response) :
    (q.resolve d >>= f).run.reading store = q.lookUpSteps store d := by
  unfold resolve lookUpSteps Directive.target?
  cases d.endpoint with
  | none => rfl
  | some ref =>
    simp only [Option.bind_some]
    cases ref.id.toEntityId.toOption with
    | none => rfl
    | some id =>
      simp only
      cases q.settings.exposure.exposes id <;> rfl

/-- Once its read has been answered, an entity has been looked up. -/
theorem answered_resolve (q : Request) (d : Directive) (store : Store) :
    (q.resolve d).run.answered store = .done (q.lookUp store d) := by
  unfold resolve lookUp Directive.target?
  cases d.endpoint with
  | none => rfl
  | some ref =>
    simp only [Option.bind_some]
    cases ref.id.toEntityId.toOption with
    | none => rfl
    | some id =>
      simp only
      cases q.settings.exposure.exposes id with
      | false => rfl
      | true =>
        show Exchange.answered store (.fetch id _) = _
        unfold Exchange.answered
        simp only [if_true]
        cases store.fetch id with
        | error e => rfl
        | ok found =>
          cases found with
          | none => rfl
          | some entity =>
            simp only [mapError_ok, Exchange.bind, ExceptT.bindCont]
            cases entity.endpoint? (q.settings.presentation? id) <;> rfl

/-- What comes of looking an entity up is what is planned, when what comes after is. -/
theorem answered_resolve_bind {f : Entity × Endpoint → Attempt Response}
    {next : Entity → Endpoint → Plan} (h : ∀ entity endpoint,
      (f (entity, endpoint)).run = (next entity endpoint).exchange q.context) :
    (q.resolve d >>= f).run.answered store =
      (Plan.ofFound (q.lookUp store d) next).exchange q.context := by
  have planned (found : Except Refusal (Entity × Endpoint)) :
      ExceptT.bindCont f found = (Plan.ofFound found next).exchange q.context := by
    cases found with
    | error refusal => rfl
    | ok pair => exact h pair.1 pair.2
  refine (Exchange.answered_bind (f := ExceptT.bindCont f) ?_ (q.resolve d).run).trans ?_
  · intro found
    rw [planned, Plan.answered_exchange]
  · rw [answered_resolve]
    exact planned _

/-- Controlling an entity is what is planned. -/
theorem answered_control (q : Request) (d : Directive) (k : DirectiveKind)
    (judge : Situation → Except Refusal Outcome) :
    (q.control d k judge).run.answered store =
      (Plan.ofFound (q.lookUp store d) (q.planControl d k judge)).exchange q.context := by
  apply answered_resolve_bind
  intro entity endpoint
  dsimp only [planControl, situation]
  cases endpoint.accepts k with
  | false => rfl
  | true =>
    simp only [Bool.not_true, Bool.false_eq_true, if_false, if_true]
    cases judge ⟨entity, d.payload, q.settings.unit, q.stamp.now⟩ with
    | error refusal => rfl
    | ok outcome =>
      obtain ⟨call, nameSpace, name, payload, readings⟩ := outcome
      cases call with
      | none => rfl
      | some c =>
        show Exchange.call c q.context _ = Exchange.call c q.context _
        congr 1
        funext r
        cases r <;> rfl

/-- Once its read has been answered, a directive is what is planned. -/
theorem answered_execute (q : Request) (d : Directive) (store : Store) :
    (q.execute d).run.answered store = (q.plan store d).exchange q.context := by
  unfold execute plan
  cases d.kind? with
  | none => rfl
  | some k =>
    simp only
    cases k.route with
    | discover =>
      show Exchange.answered store (.fetchAll _) = _
      unfold Exchange.answered
      simp only
      cases store.fetchAll <;> rfl
    | reportState => exact answered_resolve_bind fun entity endpoint => rfl
    | control judge => exact q.answered_control d k judge

theorem reading_execute (q : Request) (d : Directive) (store : Store) :
    (q.execute d).run.reading store = q.reads store d := by
  unfold execute reads
  cases d.kind? with
  | none => rfl
  | some k =>
    simp only
    cases k.route with
    | discover => rfl
    | reportState | control => exact reading_resolve_bind _

/-- A directive is carried out as planned. -/
theorem run_execute (ports : Ports σ) (q : Request) (d : Directive) (s : σ) :
    (q.execute d).run.run ports s =
      ((q.plan (ports.store s) d).carryOut ports q.context s).afterAll
        (q.reads (ports.store s) d) := by
  rw [Exchange.run_eq_answered, answered_execute, Plan.run_exchange, reading_execute]

/-! ## Messages -/

/-- What is made of the result of a directive: the answer, and what the audit is told beyond it. -/
def settle (q : Request) (d : Directive) (result : Except Refusal Response) :
    Response × Option String :=
  match result with
  | .ok response => (response, none)
  | .error refusal => (Response.refuse q.stamp d refusal, refusal.detail?)

/-- The audit event of a directive and its result. -/
def record (q : Request) (d : Directive) (result : Except Refusal Response) : AuditEvent :=
  q.audit d (q.settle d result).1 (q.settle d result).2

/-- A message that is no directive leaves no trace. -/
theorem run_handle_of_error (ports : Ports σ) (q : Request) {message : Json} {e : ProtocolError}
    (h : Directive.ofMessage message = .error e) (s : σ) :
    (q.handle message).run ports s = ⟨.error e, s, []⟩ := by
  simp [handle, h, Exchange.run]

/-- What is left of a directive that has been carried out: the answer is recorded, and given. -/
def conclude (q : Request) (d : Directive) (result : Except Refusal Response) :
    Exchange (Except ProtocolError Response) :=
  .publish (q.record d result) fun _ => .done (.ok (q.settle d result).1)

/-- What is left of a directive that has been planned. -/
def pursue (q : Request) (d : Directive) (plan : Plan) :
    Exchange (Except ProtocolError Response) :=
  (plan.exchange q.context).bind (q.conclude d)

/-- Handling a directive is carrying it out and concluding it. -/
theorem handle_eq_bind (q : Request) {message : Json} (hd : Directive.ofMessage message = .ok d) :
    q.handle message = (q.execute d).run.bind (q.conclude d) := by
  have answered : q.answer d = (q.execute d).run.bind fun result =>
      (Exchange.publish (q.record d result) .done).bind fun _ => .done (q.settle d result).1 :=
    rfl
  unfold handle
  rw [hd]
  simp only [answered, Exchange.bind_assoc]
  rfl

/-- Once its read has been answered, a message is what is planned for its directive. -/
theorem answered_handle (q : Request) {message : Json} (hd : Directive.ofMessage message = .ok d)
    (store : Store) : (q.handle message).answered store = q.pursue d (q.plan store d) := by
  rw [handle_eq_bind q hd, pursue, ← answered_execute]
  exact Exchange.answered_bind (fun _ => rfl) _

/-- What is left of a directive once its reads are done: its plan is carried out, and the answer
is recorded. -/
def finish (ports : Ports σ) (q : Request) (d : Directive) (plan : Plan) (s : σ) :
    Run σ (Except ProtocolError Response) :=
  let done := plan.carryOut ports q.context s
  let event := q.record d done.result
  let (r, s') := ports.publish done.state event
  ⟨.ok (q.settle d done.result).1, s', done.steps ++ [.published event r]⟩

/-- The call that is planned is the only one. -/
theorem calls_finish (ports : Ports σ) (q : Request) (d : Directive) (plan : Plan) (s : σ) :
    (q.finish ports d plan s).calls =
      match plan with
      | .answer _ => []
      | .call c _ => [(c, q.context)] := by
  cases plan <;> rfl

/-- One event is recorded, whatever comes of the plan. -/
theorem handed_finish (ports : Ports σ) (q : Request) (d : Directive) (plan : Plan) (s : σ) :
    (q.finish ports d plan s).handed = [q.record d (plan.carryOut ports q.context s).result] := by
  cases plan <;> rfl

/-- A directive is read, planned, carried out, answered and recorded, in this order. -/
theorem run_handle_of_ok (ports : Ports σ) (q : Request) {message : Json} {d : Directive}
    (h : Directive.ofMessage message = .ok d) (s : σ) :
    (q.handle message).run ports s =
      (q.finish ports d (q.plan (ports.store s) d) s).afterAll (q.reads (ports.store s) d) := by
  simp only [handle_eq_bind q h, Exchange.run_bind, run_execute]
  simp [conclude, Exchange.run, Run.after, Run.afterAll, finish]

theorem isRead_of_mem_reads (q : Request) (store : Store) (d : Directive) :
    ∀ step ∈ q.reads store d, step.isRead = true := by
  intro step h
  unfold reads lookUpSteps at h
  grind [ExchangeStep.isRead]

end Request

end HomeVoice
