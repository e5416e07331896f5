import HomeVoice.Proofs.Handling.Planned
import HomeVoice.Proofs.Hub.Frame
import HomeVoice.Proofs.Protocol.Envelope

/-!
# Hidden means absent

Two stores that agree on the entities that are exposed cannot be told apart by any message: the
answer, the call and the audit event are the same but for what is fresh in them, their ids and the
time. So nobody learns through a message whether an entity that is hidden is there at all.
-/

namespace HomeVoice

variable {σ σ₁ σ₂ : Type}

/-! ## What is seen of a run -/

/-- The payload of an answer with nothing in the place of the time at which a scene was started or
stopped. -/
def blankTime (payload : Dict Json) : Dict Json :=
  payload.map fun (key, value) => (key, if key = "timestamp" then .null else value)

/-- The answer without what is fresh in it: its id, the time of its readings, and the time at which
a scene was started or stopped. -/
def Response.unstamped (r : Response) : Response :=
  { r with messageId := .zero, payload := blankTime r.payload, sampledAt := ⟨0, 0⟩ }

theorem Response.nameSpace_unstamped (r : Response) : r.unstamped.nameSpace = r.nameSpace :=
  rfl

theorem Response.name_unstamped (r : Response) : r.unstamped.name = r.name :=
  rfl

/-- The outcome without the time at which a scene was started or stopped. -/
def Outcome.untimed (o : Outcome) : Outcome :=
  { o with payload := blankTime o.payload }

theorem Outcome.call_untimed (o : Outcome) : o.untimed.call = o.call :=
  rfl

/-- The audit event without what is fresh in it, its id and time. -/
def AuditEvent.unstamped (e : AuditEvent) : AuditEvent :=
  { e with id := .zero, timestamp := ⟨0, 0⟩ }

/-- What is seen of the handling of a message, without what is fresh in it. -/
structure Seen where
  result : Except ProtocolError Response
  calls : List (ServiceCall × RequestContext)
  events : List AuditEvent

/-- What is seen of a run. -/
def Run.seen (run : Run σ (Except ProtocolError Response)) : Seen :=
  ⟨run.result.map Response.unstamped, run.calls, run.handed.map AuditEvent.unstamped⟩

/-- What the caller and the audit are told of a refusal. -/
def Refusal.told (refusal : Refusal) : String × Dict Json × Option String :=
  (refusal.nameSpace, refusal.payload, refusal.detail?)

/-- What the caller and the audit are told of a result, without what is fresh in it. -/
def told (result : Except Refusal Response) :
    Except (String × Dict Json × Option String) Response :=
  (result.map Response.unstamped).mapError Refusal.told

/-- The request with other fresh ids at another time. -/
def Request.restamped (q : Request) (stamp : Stamp) : Request :=
  { q with stamp }

/-- Of an internal fault only its description is told. -/
theorem Refusal.told_internal {fault₁ fault₂ : InternalFault}
    (same : fault₁.detail = fault₂.detail) :
    (Refusal.internal fault₁).told = (Refusal.internal fault₂).told := by
  have payload : (Refusal.internal fault₁).payload = (Refusal.internal fault₂).payload := rfl
  simp only [told, nameSpace, detail?, same, payload]

/-! ## Agreement -/

/-- Two stores agree on what is exposed: exposed entities are the same wherever they are read, in
the same order, and reads of them fail in the same way. -/
structure Store.Agree (x : Exposure) (store₁ store₂ : Store) : Prop where
  fetch : ∀ id, x.exposes id = true →
    (store₁.fetch id).mapError HubError.message = (store₂.fetch id).mapError HubError.message
  fetchAll :
    (store₁.fetchAll.mapError HubError.message).map (List.filter fun e => x.exposes e.id) =
      (store₂.fetchAll.mapError HubError.message).map (List.filter fun e => x.exposes e.id)

/-- The store has an entity of this id under an id that is exposed. -/
def Store.Offers (x : Exposure) (store : Store) (target : EntityId) : Prop :=
  ∃ id entity, x.exposes id = true ∧ store.fetch id = .ok (some entity) ∧ entity.id = target

/-- Ports agree on what is exposed when their stores do and calls on entities that are exposed
succeed in both or fail in the same way. -/
structure Ports.Agree (x : Exposure) (ports₁ : Ports σ₁) (s₁ : σ₁) (ports₂ : Ports σ₂)
    (s₂ : σ₂) : Prop where
  reads : (ports₁.store s₁).Agree x (ports₂.store s₂)
  calls : ∀ c context, (ports₁.store s₁).Offers x c.target →
    (ports₁.call s₁ c context).1.mapError HubError.message =
      (ports₂.call s₂ c context).1.mapError HubError.message

/-- Plans that cannot be told apart: the same is told, or the same call is made, of a sort of calls,
and the same is told when it succeeds. -/
inductive Plan.Alike (sort : ServiceCall → Prop) : Plan → Plan → Prop
  | answer {r₁ r₂ : Except Refusal Response} (same : told r₁ = told r₂) :
      Alike sort (.answer r₁) (.answer r₂)
  | call {c : ServiceCall} {r₁ r₂ : Response} (member : sort c)
      (same : r₁.unstamped = r₂.unstamped) : Alike sort (.call c r₁) (.call c r₂)

theorem Plan.Alike.mono {sort sort' : ServiceCall → Prop} {plan₁ plan₂ : Plan}
    (alike : Plan.Alike sort plan₁ plan₂) (weaker : ∀ c, sort c → sort' c) :
    Plan.Alike sort' plan₁ plan₂ := by
  cases alike with
  | answer same => exact .answer same
  | call member same => exact .call (weaker _ member) same

/-! ## What is decided -/

namespace Control

/-- All that changes with the time in what is said of the start of a scene is the time. -/
theorem blankTime_startedPayload (now : Timestamp) :
    blankTime (startedPayload now) =
      [("cause", .object [("type", .str "VOICE_INTERACTION")]), ("timestamp", .null)] := by
  have blanked (cause time : Json) :
      blankTime (Dict.ofEntries [("cause", cause), ("timestamp", time)]) =
        [("cause", cause), ("timestamp", .null)] := rfl
  exact blanked _ _

theorem untimed_started (name : String) (s : Situation) (service : String) (now : Timestamp) :
    (started name { s with now } service).untimed = (started name s service).untimed := by
  show Outcome.mk _ _ _ (blankTime (startedPayload now)) _ =
    Outcome.mk _ _ _ (blankTime (startedPayload s.now)) _
  rw [blankTime_startedPayload, blankTime_startedPayload]
  rfl

/-- What is decided does not depend on the time, except for what it says of the time. -/
theorem untimed_decide {k : DirectiveKind} {judge : Situation → Except Refusal Outcome}
    (route : k.route = .control judge) (s : Situation) (now : Timestamp) :
    (judge { s with now }).map Outcome.untimed = (judge s).map Outcome.untimed := by
  cases k <;> cases route
  case activate => exact congrArg Except.ok (untimed_started "ActivationStarted" s "turn_on" now)
  case deactivate =>
    by_cases script : s.entity.domain = .script
    · simp only [deactivate, script, if_true, Except.map]
      rw [untimed_started]
    · simp only [deactivate, script, if_false, Except.map]
  all_goals rfl

end Control

namespace Request

variable {q : Request} {stamp : Stamp} {d : Directive} {store₁ store₂ : Store}

/-- Answers to outcomes that differ only in the time differ only in what is fresh. -/
theorem unstamped_concluded (q : Request) (stamp : Stamp) (d : Directive) {o₁ o₂ : Outcome}
    (same : o₁.untimed = o₂.untimed) (entity : Entity) (endpoint : Endpoint) :
    (q.concluded d entity endpoint o₁).unstamped =
      ((q.restamped stamp).concluded d entity endpoint o₂).unstamped := by
  obtain ⟨call₁, nameSpace₁, name₁, payload₁, readings₁⟩ := o₁
  obtain ⟨call₂, nameSpace₂, name₂, payload₂, readings₂⟩ := o₂
  simp only [Outcome.untimed, Outcome.mk.injEq] at same
  obtain ⟨rfl, rfl, rfl, payload, rfl⟩ := same
  simp [concluded, restamped, Response.reply, Response.withPayload, Response.withReadings,
    Response.unstamped, payload]

/-! ## What is planned -/

theorem told_storeFailed {e₁ e₂ : HubError} (same : e₁.message = e₂.message) :
    (Refusal.internal (.storeFailed e₁)).told = (Refusal.internal (.storeFailed e₂)).told :=
  Refusal.told_internal (congrArg (fun message => "state store failed: " ++ message) same)

theorem told_callFailed {e₁ e₂ : HubError} (service : String) (same : e₁.message = e₂.message) :
    (Refusal.internal (.callFailed service e₁)).told =
      (Refusal.internal (.callFailed service e₂)).told :=
  Refusal.told_internal
    (congrArg (fun message => "service call " ++ service ++ " failed: " ++ message) same)

/-- Looking an entity up gives the same, or is refused with the same words, in stores that agree:
what is hidden is refused before the store is read. -/
theorem lookUp_agree (agree : store₁.Agree q.settings.exposure store₂) (d : Directive) :
    (q.lookUp store₁ d).mapError Refusal.told = (q.lookUp store₂ d).mapError Refusal.told := by
  unfold lookUp
  cases d.endpoint with
  | none => rfl
  | some ref =>
    simp only
    cases d.target? with
    | none => rfl
    | some id =>
      simp only
      cases exposed : q.settings.exposure.exposes id with
      | false => rfl
      | true =>
        rcases cases_of_mapError_eq (agree.fetch id exposed) with
          ⟨e₁, e₂, first, second, same⟩ | ⟨found, first, second⟩
        · rw [first, second]
          exact congrArg Except.error (told_storeFailed same)
        · rw [first, second]

theorem offers_of_lookUp {entity : Entity} {endpoint : Endpoint}
    (found : q.lookUp store₁ d = .ok (entity, endpoint)) :
    store₁.Offers q.settings.exposure entity.id := by
  obtain ⟨id, -, exposed, stored, -⟩ := lookUp_eq_ok.1 found
  exact ⟨id, entity, exposed, stored, rfl⟩

/-- The list of endpoints shows only what is exposed. -/
theorem endpoints_congr {s : Settings} {l₁ l₂ : List Entity}
    (same : l₁.filter (fun e => s.exposure.exposes e.id) =
      l₂.filter fun e => s.exposure.exposes e.id) : s.endpoints l₁ = s.endpoints l₂ := by
  rw [Settings.endpoints, Settings.endpoints, same]

/-- Plans for what has been looked up are alike when what follows is. -/
theorem alike_ofFound {sort : ServiceCall → Prop}
    {found₁ found₂ : Except Refusal (Entity × Endpoint)} {next₁ next₂ : Entity → Endpoint → Plan}
    (same : found₁.mapError Refusal.told = found₂.mapError Refusal.told)
    (alike : ∀ entity endpoint, found₁ = .ok (entity, endpoint) →
      Plan.Alike sort (next₁ entity endpoint) (next₂ entity endpoint)) :
    Plan.Alike sort (.ofFound found₁ next₁) (.ofFound found₂ next₂) := by
  rcases cases_of_mapError_eq same with ⟨e₁, e₂, rfl, rfl, words⟩ | ⟨pair, rfl, rfl⟩
  · exact .answer (congrArg Except.error words)
  · exact alike pair.1 pair.2 rfl

/-- Controlling an entity is planned alike with other fresh ids and at another time. -/
theorem alike_planControl {k : DirectiveKind} {judge : Situation → Except Refusal Outcome}
    (route : k.route = .control judge) (entity : Entity) (endpoint : Endpoint) :
    Plan.Alike (fun c => c.target = entity.id) (q.planControl d k judge entity endpoint)
      ((q.restamped stamp).planControl d k judge entity endpoint) := by
  unfold planControl
  by_cases accepted : endpoint.accepts k = true
  · have same := Control.untimed_decide route (q.situation d entity) stamp.now
    have later : (q.restamped stamp).situation d entity =
        { q.situation d entity with now := stamp.now } := rfl
    simp only [accepted, if_true, later]
    rcases cases_of_map_eq same with
      ⟨refusal, second, first⟩ | ⟨outcome', outcome, second, first, same⟩
    · rw [first, second]
      exact .answer rfl
    · have answer := q.unstamped_concluded stamp d same.symm entity endpoint
      have call : outcome'.call = outcome.call := by
        rw [← Outcome.call_untimed, same, Outcome.call_untimed]
      simp only [first, second, call]
      cases called : outcome.call with
      | none => exact .answer (congrArg Except.ok answer)
      | some c => exact .call ((Control.decided_of_ok route first).target called) answer
  · simp only [accepted]
    exact .answer rfl

/-- Stores that agree on what is exposed lead to plans that cannot be told apart. -/
theorem alike_plan (agree : store₁.Agree q.settings.exposure store₂) (stamp : Stamp)
    (d : Directive) :
    Plan.Alike (fun c => store₁.Offers q.settings.exposure c.target) (q.plan store₁ d)
      ((q.restamped stamp).plan store₂ d) := by
  have looked := lookUp_agree agree d
  have restamped : (q.restamped stamp).lookUp store₂ d = q.lookUp store₂ d := rfl
  unfold plan
  cases d.kind? with
  | none => exact .answer rfl
  | some k =>
    simp only
    cases route : k.route with
    | discover =>
      rcases cases_of_map_eq agree.fetchAll with
        ⟨message, first, second⟩ | ⟨entities₁, entities₂, first, second, same⟩
      · obtain ⟨e₁, failed₁, words₁⟩ := mapError_eq_error.1 first
        obtain ⟨e₂, failed₂, words₂⟩ := mapError_eq_error.1 second
        rw [failed₁, failed₂]
        exact .answer (congrArg Except.error (told_storeFailed (words₁.trans words₂.symm)))
      · rw [mapError_eq_ok.1 first, mapError_eq_ok.1 second]
        have listed : q.discovered d entities₁ = q.discovered d entities₂ := by
          rw [discovered, endpoints_congr same, discovered]
        simp only [listed]
        exact .answer rfl
    | reportState =>
      refine alike_ofFound (restamped ▸ looked) ?_
      intro entity endpoint found
      exact .answer rfl
    | control judge =>
      refine alike_ofFound (restamped ▸ looked) ?_
      intro entity endpoint found
      refine (alike_planControl route entity endpoint).mono ?_
      intro c target
      rw [target]
      exact offers_of_lookUp found

/-! ## What is done -/

/-- What is told alike is answered and recorded alike. -/
theorem settle_told {r₁ r₂ : Except Refusal Response} (same : told r₁ = told r₂) (q : Request)
    (stamp : Stamp) (d : Directive) :
    (q.settle d r₁).1.unstamped = ((q.restamped stamp).settle d r₂).1.unstamped ∧
      (q.settle d r₁).2 = ((q.restamped stamp).settle d r₂).2 := by
  cases r₁ with
  | error e₁ =>
    cases r₂ with
    | error e₂ =>
      obtain ⟨nameSpace, payload, detail⟩ :
          e₁.nameSpace = e₂.nameSpace ∧ e₁.payload = e₂.payload ∧ e₁.detail? = e₂.detail? := by
        simpa [told, Except.map, Refusal.told] using same
      refine ⟨?_, detail⟩
      simp [settle, Response.refuse, Response.reply, Response.withPayload, Response.unstamped,
        nameSpace, payload, restamped]
    | ok response => cases same
  | ok response₁ =>
    cases r₂ with
    | error e₂ => cases same
    | ok response₂ => exact ⟨Except.ok.inj same, rfl⟩

/-- What is told alike is recorded alike. -/
theorem unstamped_record {r₁ r₂ : Except Refusal Response} (same : told r₁ = told r₂) (q : Request)
    (stamp : Stamp) (d : Directive) :
    (q.record d r₁).unstamped = ((q.restamped stamp).record d r₂).unstamped := by
  obtain ⟨answer, detail⟩ := settle_told same q stamp d
  have nameSpace : (q.settle d r₁).1.nameSpace = ((q.restamped stamp).settle d r₂).1.nameSpace := by
    rw [← Response.nameSpace_unstamped, answer, Response.nameSpace_unstamped]
  have name : (q.settle d r₁).1.name = ((q.restamped stamp).settle d r₂).1.name := by
    rw [← Response.name_unstamped, answer, Response.name_unstamped]
  simp only [record, audit, AuditEvent.unstamped, nameSpace, name, detail]
  rfl

variable {sort : ServiceCall → Prop} {plan₁ plan₂ : Plan} {ports₁ : Ports σ₁} {s₁ : σ₁}
  {ports₂ : Ports σ₂} {s₂ : σ₂} {context : RequestContext}

theorem told_carryOut (alike : Plan.Alike sort plan₁ plan₂)
    (replies : ∀ c, sort c → (ports₁.call s₁ c context).1.mapError HubError.message =
      (ports₂.call s₂ c context).1.mapError HubError.message) :
    told (plan₁.carryOut ports₁ context s₁).result =
      told (plan₂.carryOut ports₂ context s₂).result := by
  cases alike with
  | answer same => exact same
  | @call c response₁ response₂ member same =>
    simp only [Plan.carryOut]
    rcases cases_of_mapError_eq (replies c member) with
      ⟨e₁, e₂, first, second, words⟩ | ⟨_, first, second⟩
    · rw [first, second]
      exact congrArg Except.error (told_callFailed c.qualifiedName words)
    · rw [first, second]
      exact congrArg Except.ok same

/-- Plans that cannot be told apart are carried out with the same to be seen, if the calls that they
may make succeed in both or fail in the same way. -/
theorem seen_finish (alike : Plan.Alike sort plan₁ plan₂)
    (replies : ∀ c, sort c → (ports₁.call s₁ c q.context).1.mapError HubError.message =
      (ports₂.call s₂ c q.context).1.mapError HubError.message) (stamp : Stamp) :
    (q.finish ports₁ d plan₁ s₁).seen = ((q.restamped stamp).finish ports₂ d plan₂ s₂).seen := by
  have same := told_carryOut alike replies
  have result : (q.finish ports₁ d plan₁ s₁).result.map Response.unstamped =
      ((q.restamped stamp).finish ports₂ d plan₂ s₂).result.map Response.unstamped :=
    congrArg Except.ok (settle_told same q stamp d).1
  have events : (q.finish ports₁ d plan₁ s₁).handed.map AuditEvent.unstamped =
      ((q.restamped stamp).finish ports₂ d plan₂ s₂).handed.map AuditEvent.unstamped := by
    rw [handed_finish, handed_finish]
    exact congrArg (fun event => [event]) (unstamped_record same q stamp d)
  have calls : (q.finish ports₁ d plan₁ s₁).calls =
      ((q.restamped stamp).finish ports₂ d plan₂ s₂).calls := by
    rw [calls_finish, calls_finish]
    cases alike <;> rfl
  rw [Run.seen, Run.seen, result, calls, events]

theorem seen_afterAll {steps : List ExchangeStep} (reads : ∀ step ∈ steps, step.isRead = true)
    (run : Run σ (Except ProtocolError Response)) : (run.afterAll steps).seen = run.seen := by
  rw [Run.seen, Run.calls_afterAll reads, Run.handed_afterAll reads]
  rfl

end Request

/-! ## Hubs -/

namespace Hub

variable {x : Exposure} {hub₁ hub₂ : Hub}

theorem get?_of_exposed (same : hub₁.entities.filter (fun e => x.exposes e.id) =
    hub₂.entities.filter fun e => x.exposes e.id) {id : EntityId} (exposed : x.exposes id = true) :
    hub₁.get? id = hub₂.get? id := by
  have filtered : ∀ hub : Hub, hub.get? id =
      (hub.entities.filter fun e => x.exposes e.id).find? fun e => e.id = id := by
    intro hub
    rw [get?, List.find?_filter]
    congr 1
    funext e
    by_cases h : e.id = id <;> simp [h, exposed]
  rw [filtered hub₁, filtered hub₂, same]

/-- Whether a call succeeds does not depend on the time, nor on any entity but its target. -/
theorem attempt_reply_congr {c : ServiceCall} (same : hub₁.get? c.target = hub₂.get? c.target)
    (now₁ now₂ : Timestamp) : (hub₁.attempt c now₁).1 = (hub₂.attempt c now₂).1 := by
  rw [attempt_eq, attempt_eq]
  unfold call
  rw [same]
  cases hub₂.get? c.target with
  | none => rfl
  | some e =>
    simp only [Entity.apply]
    by_cases other : c.domain ≠ e.id.domainName ∧ c.domain ≠ ServiceCall.genericDomain
    · simp only [if_pos other]
      rfl
    · simp only [if_neg other]
      cases e.serve c <;> rfl

/-- Hubs with the same exposed entities agree on what is exposed. -/
theorem agree_ports (same : hub₁.entities.filter (fun e => x.exposes e.id) =
      hub₂.entities.filter fun e => x.exposes e.id) (now₁ now₂ : Timestamp) (outages : Outages) :
    Ports.Agree x (ports now₁ outages) hub₁ (ports now₂ outages) hub₂ where
  reads := {
    fetch := by
      intro id exposed
      show (Outages.guard _ (hub₁.get? id)).mapError _ = (Outages.guard _ (hub₂.get? id)).mapError _
      rw [get?_of_exposed same exposed]
    fetchAll := by
      show ((Outages.guard outages.fetchAll hub₁.entities).mapError _).map _ =
        ((Outages.guard outages.fetchAll hub₂.entities).mapError _).map _
      cases outages.fetchAll with
      | none => exact congrArg Except.ok same
      | some e => rfl }
  calls := by
    rintro c context ⟨id, entity, exposed, fetched, target⟩
    have named : entity.id = id := id_of_ports_fetch hub₁ now₁ outages fetched
    have found : hub₁.get? c.target = hub₂.get? c.target :=
      get?_of_exposed same (target ▸ named ▸ exposed)
    unfold ports
    cases outages.call with
    | none => exact congrArg _ (attempt_reply_congr found now₁ now₂)
    | some e => rfl

end Hub

/-! ## Messages -/

namespace Request

/-- A message cannot tell apart ports that agree on what is exposed, whatever they hide: the result
is the same protocol error or the same answer, the same call is made or none, and the same event is
recorded, but for fresh ids and the time. -/
theorem handle_noninterference (q : Request) (stamp : Stamp) (ports₁ : Ports σ₁) (s₁ : σ₁)
    (ports₂ : Ports σ₂) (s₂ : σ₂)
    (agree : Ports.Agree q.settings.exposure ports₁ s₁ ports₂ s₂) (message : Json) :
    ((q.handle message).run ports₁ s₁).seen =
      (((q.restamped stamp).handle message).run ports₂ s₂).seen := by
  cases hd : Directive.ofMessage message with
  | error e =>
    rw [q.run_handle_of_error ports₁ hd, (q.restamped stamp).run_handle_of_error ports₂ hd]
    rfl
  | ok d =>
    rw [q.run_handle_of_ok ports₁ hd, (q.restamped stamp).run_handle_of_ok ports₂ hd,
      seen_afterAll (q.isRead_of_mem_reads _ d), seen_afterAll (isRead_of_mem_reads _ _ d)]
    exact seen_finish (alike_plan agree.reads stamp d)
      (fun c member => agree.calls c q.context member) stamp

end Request

/-- A light that is off. -/
def Entity.desk : Entity :=
  ⟨⟨"light", "desk", by decide, by decide, by decide⟩, "off", .empty, ⟨0, 0⟩⟩

/-- A lock that is locked. -/
def Entity.vault : Entity :=
  ⟨⟨"lock", "vault", by decide, by decide, by decide⟩, "locked", .empty, ⟨0, 0⟩⟩

/-- Whoever tries to unlock a lock where locks are hidden sees what is seen where there is none. -/
theorem Request.handle_noninterference_lock :
    let q := exposing ⟨[], [], ["lock"], []⟩
    let home := Hub.ofEntities [Entity.desk]
    let home' := Hub.ofEntities [Entity.desk, Entity.vault]
    let message := (Directive.addressed "Alexa.LockController" "Unlock" Entity.vault.id).envelope
    home'.get? Entity.vault.id = some Entity.vault ∧ home.get? Entity.vault.id = none ∧
      Ports.Agree q.settings.exposure (Hub.ports ⟨1, 0⟩ .none) home (Hub.ports ⟨2, 0⟩ .none) home' ∧
      ((q.handle message).run (Hub.ports ⟨1, 0⟩ .none) home).seen =
        (((q.restamped ⟨.zero, .zero, ⟨2, 0⟩⟩).handle message).run
          (Hub.ports ⟨2, 0⟩ .none) home').seen := by
  intro q home home' message
  have same : home.entities.filter (fun e => q.settings.exposure.exposes e.id) =
      home'.entities.filter fun e => q.settings.exposure.exposes e.id := rfl
  have agree := Hub.agree_ports same ⟨1, 0⟩ ⟨2, 0⟩ .none
  exact ⟨rfl, rfl, agree, handle_noninterference q _ _ _ _ _ agree message⟩

end HomeVoice
