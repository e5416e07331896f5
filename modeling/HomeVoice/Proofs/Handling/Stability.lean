import HomeVoice.Proofs.Control.Stability
import HomeVoice.Proofs.Handling.Noninterference
import HomeVoice.Proofs.Handling.Reply

/-!
# Plans that stand

A plan is made from what a hub is when it is read. It stands as long as the hub has the same
devices: unless the directive changes a value by a difference, and the value has changed, it would
be the same plan if it were made later. The reply to it is then the same as well, but for fresh ids
and the time.
-/

namespace HomeVoice

namespace Request

variable {q : Request} {d : Directive} {hub hub' : Hub} {now : Timestamp} {outages : Outages}

/-- In hubs with the same devices an entity is looked up with the same refusal, or with the same
endpoint. -/
theorem lookUp_cases (same : hub.SameDevices hub') (q : Request) (now : Timestamp)
    (outages : Outages) (d : Directive) :
    (∃ refusal, q.lookUp ((Hub.ports now outages).store hub) d = .error refusal ∧
      q.lookUp ((Hub.ports now outages).store hub') d = .error refusal) ∨
    ∃ e e' endpoint, q.lookUp ((Hub.ports now outages).store hub) d = .ok (e, endpoint) ∧
      q.lookUp ((Hub.ports now outages).store hub') d = .ok (e', endpoint) ∧ e.SameDevice e' := by
  unfold lookUp
  cases d.endpoint with
  | none => exact .inl ⟨_, rfl, rfl⟩
  | some ref =>
    simp only
    cases d.target? with
    | none => exact .inl ⟨_, rfl, rfl⟩
    | some id =>
      simp only [Ports.store, Hub.ports, Outages.guard]
      cases q.settings.exposure.exposes id with
      | false => exact .inl ⟨_, rfl, rfl⟩
      | true =>
        cases outages.fetch with
        | some e => exact .inl ⟨_, rfl, rfl⟩
        | none =>
          rcases same.get?_cases id with ⟨first, second⟩ | ⟨e, e', first, second, device⟩
          · simp only [first, second]
            exact .inl ⟨_, rfl, rfl⟩
          · simp only [first, second, device.endpoint?]
            cases e.endpoint? (q.settings.presentation? id) with
            | none => exact .inl ⟨_, rfl, rfl⟩
            | some endpoint => exact .inr ⟨e, e', endpoint, rfl, rfl, device⟩

/-- What is planned for a device stands while it is the same device. -/
theorem planControl_congr {k : DirectiveKind} {judge : Situation → Except Refusal Outcome}
    (route : k.route = .control judge) {e e' : Entity} (same : e.SameDevice e')
    (unwritten : k ∈ DirectiveKind.relative → e'.attributes = e.attributes)
    {presentation : Option Presentation} {endpoint : Endpoint}
    (shown : e.endpoint? presentation = some endpoint) :
    q.planControl d k judge e' endpoint = q.planControl d k judge e endpoint := by
  unfold planControl
  cases accepted : endpoint.accepts k with
  | false => simp only [Bool.false_eq_true, if_false, same.id]
  | true =>
    have decision : judge (q.situation d e') = judge (q.situation d e) :=
      Control.judge_congr route same unwritten _ _ _
    have answer (o : Outcome) : q.concluded d e' endpoint o = q.concluded d e endpoint o := by
      simp only [concluded, Entity.proactive_congr same shown accepted]
    simp only [decision, answer, if_true]

/-- A plan to control stands while the hub has the same devices. Where a value is to be changed by a
difference, the attributes of the addressed entity must stand as well. -/
theorem plan_congr {k : DirectiveKind} {judge : Situation → Except Refusal Outcome}
    (kind : d.kind? = some k) (route : k.route = .control judge) (same : hub.SameDevices hub')
    (unwritten : k ∈ DirectiveKind.relative → ∀ id e e', d.target? = some id →
      hub.get? id = some e → hub'.get? id = some e' → e'.attributes = e.attributes) :
    q.plan ((Hub.ports now outages).store hub') d =
      q.plan ((Hub.ports now outages).store hub) d := by
  have routed (hub : Hub) : q.plan ((Hub.ports now outages).store hub) d =
      .ofFound (q.lookUp ((Hub.ports now outages).store hub) d) (q.planControl d k judge) := by
    simp only [plan, kind, route]
  rw [routed, routed]
  rcases lookUp_cases same q now outages d with
    ⟨refusal, first, second⟩ | ⟨e, e', endpoint, first, second, device⟩
  · rw [first, second]
  · rw [first, second]
    obtain ⟨id, named, -, stored, shown⟩ := lookUp_eq_ok.1 first
    obtain ⟨id', named', -, stored', -⟩ := lookUp_eq_ok.1 second
    obtain rfl : id' = id := Option.some.inj (named'.symm.trans named)
    refine planControl_congr route device ?_ shown
    intro relative
    exact unwritten relative id' e e' named (Hub.get?_of_ports_fetch stored)
      (Hub.get?_of_ports_fetch stored')

end Request

/-! ## The same message again -/

/-- An arrival of the same message, while the same is out of order. What is fresh in the answer, the
time and who sends it may be different. -/
structure Arrival.Repeats (a b : Arrival) : Prop where
  message : b.message = a.message
  outages : b.outages = a.outages

/-- The call that is planned. -/
def Plan.call? : Plan → Option ServiceCall
  | .answer _ => none
  | .call c _ => some c

theorem Plan.Alike.call? {sort : ServiceCall → Prop} {plan plan' : Plan}
    (alike : Plan.Alike sort plan plan') : plan'.call? = plan.call? := by
  cases alike <;> rfl

namespace Arrival

variable {settings : Settings} {a b : Arrival} {d : Directive} {hub hub' : Hub}

/-- A plan that stands is alike when the message comes again. -/
theorem alike_plan (again : a.Repeats b) (stands : a.plan settings d hub' = a.plan settings d hub) :
    Plan.Alike (fun _ => True) (a.plan settings d hub) (b.plan settings d hub') := by
  have agree : (a.ports.store hub').Agree settings.exposure (a.ports.store hub') :=
    ⟨fun _ _ => rfl, rfl⟩
  have alike := Request.alike_plan (q := a.request settings) agree b.stamp d
  have restamped : b.plan settings d hub' =
      ((a.request settings).restamped b.stamp).plan (a.ports.store hub') d := by
    show (b.request settings).plan ((Hub.ports b.now b.outages).store hub') d = _
    rw [again.outages]
    rfl
  rw [restamped, ← stands]
  exact alike.mono fun _ _ => trivial

end Arrival

namespace Hub

variable {settings : Settings} {a b : Arrival} {d : Directive} {hub hub' : Hub}

/-- The hub after a call, or after none. -/
def afterCall (hub : Hub) (a : Arrival) : Option ServiceCall → Hub
  | none => hub
  | some c => (a.ports.call hub c a.context).2

theorem after_eq_afterCall (hd : Directive.ofMessage a.message = .ok d) (hub : Hub) :
    hub.after settings a = hub.afterCall a (a.plan settings d hub).call? := by
  rw [after_of_ok hd]
  cases a.plan settings d hub <;> rfl

/-- A call that comes again while the hub has the same devices succeeds, or fails, as before. -/
theorem call_congr (again : a.Repeats b) (same : hub.SameDevices hub') (c : ServiceCall)
    (context context' : RequestContext) :
    (b.ports.call hub' c context').1 = (a.ports.call hub c context).1 := by
  unfold Arrival.ports ports
  rw [again.outages]
  cases a.outages.call with
  | some e => rfl
  | none => exact same.attempt c a.now b.now

/-- A message that comes again while its plan stands, and the hub has the same devices, gets the
same reply. -/
theorem reply_congr (again : a.Repeats b) (hd : Directive.ofMessage a.message = .ok d)
    (stands : a.plan settings d hub' = a.plan settings d hub) (same : hub.SameDevices hub') :
    (hub'.reply settings b).map Response.unstamped =
      (hub.reply settings a).map Response.unstamped := by
  have alike := Arrival.alike_plan again stands
  have replies : ∀ c, True → (a.ports.call hub c a.context).1.mapError HubError.message =
      (b.ports.call hub' c a.context).1.mapError HubError.message := by
    intro c _
    rw [call_congr again same c a.context a.context]
  have told := Request.told_carryOut alike replies
  have context : ((b.plan settings d hub').carryOut b.ports b.context hub').result =
      ((b.plan settings d hub').carryOut b.ports a.context hub').result := by
    cases b.plan settings d hub' <;> rfl
  rw [reply_of_ok hd, reply_of_ok (again.message ▸ hd), context]
  exact congrArg Except.ok (Request.settle_told told (a.request settings) b.stamp d).1.symm

end Hub

end HomeVoice
