import HomeVoice.Proofs.Handling.Stability
import HomeVoice.Proofs.Interleaving.Flight

/-!
# The stages of a request in flight

A request is fresh until it has read, poised when it has planned a call, and spent when all that is
left is to record its result. `Stage.move` says what each step does: the one that counts, the call
or else the read, gives the reply that the request would get if it were handled at once then, and
leaves the hub as that would leave it.
-/

namespace HomeVoice

variable {α : Type}

namespace Exchange

/-- All that is left of an exchange is to record its result. -/
inductive Concludes : Exchange α → α → Prop
  | done (result : α) : Concludes (.done result) result
  | publish {event : AuditEvent} {next : Except HubError Unit → Exchange α} {result : α}
      (rest : ∀ r, Concludes (next r) result) : Concludes (.publish event next) result

namespace Concludes

variable {x x' : Exchange α} {result result' : α} {hub hub' : Hub} {now : Timestamp}
  {outages : Outages} {step : ExchangeStep}

theorem eq_of_done (h : Concludes (.done result') result) : result' = result := by
  cases h
  rfl

/-- To record a result is nothing to the hub. -/
theorem run (h : x.Concludes result) (now : Timestamp) (outages : Outages) (hub : Hub) :
    (x.run (Hub.ports now outages) hub).result = result ∧
      (x.run (Hub.ports now outages) hub).state = hub := by
  induction h with
  | done result => exact ⟨rfl, rfl⟩
  | publish _ ih => exact ih _

theorem of_step (h : x.Concludes result)
    (taken : x.step? (Hub.ports now outages) hub = some (step, x', hub')) :
    step.isRead = false ∧ step.isCall = false ∧ x'.Concludes result ∧ hub' = hub := by
  cases h with
  | done result => cases taken
  | publish rest =>
    cases taken
    exact ⟨rfl, rfl, rest _, rfl⟩

end Concludes

end Exchange

theorem Request.concludes_conclude (q : Request) (d : Directive)
    (result : Except Refusal Response) :
    (q.conclude d result).Concludes (.ok (q.settle d result).1) :=
  .publish fun _ => .done _

variable {settings : Settings} {a b : Arrival} {hub hub' : Hub} {d : Directive}
  {x x' : Exchange (Except ProtocolError Response)} {step : ExchangeStep}

/-! ## Stages -/

/-- How far a request has come on a hub. A call that it is about to make is the one that it would
plan now. -/
inductive Stage (settings : Settings) (a : Arrival) (hub : Hub) :
    Exchange (Except ProtocolError Response) → Prop
  | fresh {d : Directive} {x : Exchange (Except ProtocolError Response)}
      (hd : Directive.ofMessage a.message = .ok d)
      (plans : ∀ store, x.answered store =
        (a.request settings).pursue d ((a.request settings).plan store d)) :
      Stage settings a hub x
  | poised {d : Directive} {c : ServiceCall} {response : Response}
      (hd : Directive.ofMessage a.message = .ok d)
      (planned : a.plan settings d hub = .call c response) :
      Stage settings a hub ((a.request settings).pursue d (.call c response))
  | spent {x : Exchange (Except ProtocolError Response)}
      {result : Except ProtocolError Response} (concludes : x.Concludes result) :
      Stage settings a hub x

/-- Before its first step a request is fresh, or spent when its message is no directive. -/
theorem stage_start (settings : Settings) (a : Arrival) (hub : Hub) :
    Stage settings a hub (a.start settings) := by
  cases hd : Directive.ofMessage a.message with
  | error e =>
    have refused : a.start settings = .done (.error e) := by
      simp only [Arrival.start, Request.handle, hd]
    rw [refused]
    exact .spent (.done _)
  | ok d => exact .fresh hd (Request.answered_handle _ hd)

/-! ## Moves -/

/-- What a step of a request does. -/
inductive Move (settings : Settings) (a : Arrival) (hub : Hub)
    (x : Exchange (Except ProtocolError Response)) :
    ExchangeStep → Exchange (Except ProtocolError Response) → Hub → Prop
  | plans {step : ExchangeStep} {d : Directive} {c : ServiceCall} {response : Response}
      (read : step.isRead = true) (hd : Directive.ofMessage a.message = .ok d)
      (planned : a.plan settings d hub = .call c response) :
      Move settings a hub x step ((a.request settings).pursue d (.call c response)) hub
  | answers {step : ExchangeStep} {x' : Exchange (Except ProtocolError Response)}
      (read : step.isRead = true) (concludes : x'.Concludes (hub.reply settings a))
      (kept : hub.after settings a = hub) : Move settings a hub x step x' hub
  | acts {step : ExchangeStep} {d : Directive} {c : ServiceCall} {response : Response}
      {x' : Exchange (Except ProtocolError Response)} (call : step.isCall = true)
      (hd : Directive.ofMessage a.message = .ok d)
      (planned : a.plan settings d hub = .call c response)
      (concludes : x'.Concludes (hub.reply settings a)) :
      Move settings a hub x step x' (hub.after settings a)
  | records {step : ExchangeStep} {x' : Exchange (Except ProtocolError Response)}
      {result : Except ProtocolError Response} (notRead : step.isRead = false)
      (notCall : step.isCall = false) (concludes : x.Concludes result)
      (concludes' : x'.Concludes result) : Move settings a hub x step x' hub

namespace Move

/-- A read is followed by what is planned from it. -/
theorem of_read (hd : Directive.ofMessage a.message = .ok d) (read : step.isRead = true) :
    Move settings a hub x step ((a.request settings).pursue d (a.plan settings d hub)) hub := by
  cases planned : a.plan settings d hub with
  | call c response => exact .plans read hd planned
  | answer result =>
    refine .answers read ?_ ?_
    · rw [Hub.reply_of_ok hd, planned]
      exact Request.concludes_conclude _ d result
    · rw [Hub.after_of_ok hd, planned]
      rfl

/-- A planned call is made as if the message were handled at once. -/
theorem of_call (hd : Directive.ofMessage a.message = .ok d) {c : ServiceCall}
    {response : Response} (planned : a.plan settings d hub = .call c response)
    (taken : ((a.request settings).pursue d (.call c response)).step? a.ports hub =
      some (step, x', hub')) :
    Move settings a hub x step x' hub' := by
  have after : hub.after settings a = (a.ports.call hub c a.context).2 := by
    rw [Hub.after_of_ok hd, planned]
    rfl
  have left : x' = (a.request settings).conclude d
      (Plan.callResult c response (a.ports.call hub c a.context).1) := by
    cases taken
    rfl
  have called : hub' = (a.ports.call hub c a.context).2 := by
    cases taken
    rfl
  have call : step.isCall = true := by
    cases taken
    rfl
  rw [called, ← after]
  refine .acts call hd planned ?_
  rw [left, Hub.reply_of_ok hd, planned]
  exact Request.concludes_conclude _ d _

theorem of_concludes {result : Except ProtocolError Response} (concludes : x.Concludes result)
    (taken : x.step? a.ports hub = some (step, x', hub')) :
    Move settings a hub x step x' hub' := by
  obtain ⟨notRead, notCall, concludes', rfl⟩ := concludes.of_step taken
  exact .records notRead notCall concludes concludes'

end Move

/-- Every step of a request is one of these moves. -/
theorem Stage.move (stage : Stage settings a hub x)
    (taken : x.step? a.ports hub = some (step, x', hub')) :
    Move settings a hub x step x' hub' := by
  cases stage with
  | spent concludes => exact .of_concludes concludes taken
  | poised hd planned => exact .of_call hd planned taken
  | @fresh d _ hd plans =>
    have planned := plans (a.ports.store hub)
    cases x with
    | done result => cases taken
    | fetch id next =>
      cases taken
      have left : next (a.ports.fetch hub id) = _ := planned
      rw [left]
      exact .of_read hd rfl
    | fetchAll next =>
      cases taken
      have left : next (a.ports.fetchAll hub) = _ := planned
      rw [left]
      exact .of_read hd rfl
    | call | publish =>
      -- Nothing is read, so the request is what is planned already.
      have whole : _ = (a.request settings).pursue d (a.plan settings d hub) := planned
      simp only [Exchange.answered] at whole
      rw [whole] at taken ⊢
      cases plan : a.plan settings d hub with
      | answer result =>
        rw [plan] at taken
        exact .of_concludes (Request.concludes_conclude _ d result) taken
      | call c response =>
        rw [plan] at taken
        exact .of_call hd plan taken

/-! ## Others -/

/-- The message is a directive that controls the entity of an id. -/
def Controls (message : Json) (id : EntityId) : Prop :=
  ∃ d k judge, Directive.ofMessage message = .ok d ∧ d.kind? = some k ∧
    k.route = .control judge ∧ d.target? = some id

/-- The message is a directive that changes a value of the entity of an id by a difference. -/
def Adjusts (message : Json) (id : EntityId) : Prop :=
  ∃ d, ∃ k ∈ DirectiveKind.relative, Directive.ofMessage message = .ok d ∧ d.kind? = some k ∧
    d.target? = some id

/-- A message leaves every entity as it was that it does not control. -/
theorem get?_after_of_not_controls {id : EntityId} (free : ¬Controls a.message id) (hub : Hub) :
    (hub.after settings a).get? id = hub.get? id := by
  cases hd : Directive.ofMessage a.message with
  | error e => rw [Hub.after_of_error hd]
  | ok d =>
    rw [Hub.after_of_ok hd]
    cases planned : a.plan settings d hub with
    | answer result => rfl
    | call c response =>
      obtain ⟨k, judge, id', entity, endpoint, outcome, auth, route, decided, called, -⟩ :=
        Request.plan_eq_call.1 planned
      have target : c.target = id' :=
        ((Control.decided_of_ok route decided).target called).trans
          (Hub.id_of_ports_fetch hub a.now a.outages auth.stored)
      have other : id ≠ c.target := by
        rintro rfl
        exact free ⟨d, k, judge, hd, auth.kind, route, target ▸ auth.named⟩
      cases accepted : (a.ports.call hub c a.context).1 with
      | error e => exact congrArg (fun hub => Hub.get? hub id) (Hub.eq_of_ports_call_error accepted)
      | ok _ => exact (Hub.frame_of_call_eq_ok (Hub.call_of_ports_call_ok accepted)).others id other

/-- A call that has been planned stands when another message has been handled, unless it changes a
value by a difference and the other message controls the same entity. -/
theorem plan_stands (hd : Directive.ofMessage b.message = .ok d) {c : ServiceCall}
    {response : Response} (planned : b.plan settings d hub = .call c response)
    (apart : ∀ id, Adjusts b.message id → ¬Controls a.message id) :
    b.plan settings d (hub.after settings a) = .call c response := by
  obtain ⟨k, judge, id, entity, endpoint, outcome, auth, route, -⟩ :=
    Request.plan_eq_call.1 planned
  rw [← planned]
  refine Request.plan_congr auth.kind route (Hub.sameDevices_after settings hub a) ?_
  intro relative id' e e' named found found'
  have free : ¬Controls a.message id' := apart id' ⟨d, k, relative, hd, auth.kind, named⟩
  rw [get?_after_of_not_controls free, found] at found'
  rw [Option.some.inj found']

/-- How far a request has come is not changed by another one, unless the two clash. -/
theorem Stage.after (stage : Stage settings b hub x)
    (apart : ∀ id, Adjusts b.message id → ¬Controls a.message id) :
    Stage settings b (hub.after settings a) x := by
  cases stage with
  | fresh hd plans => exact .fresh hd plans
  | poised hd planned => exact .poised hd (plan_stands hd planned apart)
  | spent concludes => exact .spent concludes

end HomeVoice
