import HomeVoice.Proofs.Handling.Stability
import HomeVoice.Proofs.Hub.Undated

/-!
# Messages on hubs but for the time

Messages do the same, and get the same replies, on hubs that differ only in the times at which
entities have changed. So handling messages again, at other times and with other ids, differs in
these alone.
-/

namespace HomeVoice

variable {hub hub' : Hub}

/-- Plans do not depend on when entities have changed. -/
theorem Request.plan_undated (same : hub'.undated = hub.undated) (q : Request) (now : Timestamp)
    (outages : Outages) (d : Directive) :
    q.plan ((Hub.ports now outages).store hub') d =
      q.plan ((Hub.ports now outages).store hub) d := by
  have devices : hub.SameDevices hub' := Hub.sameDevices_of_undated_eq same
  have entity {id : EntityId} {e e' : Entity} (found : hub.get? id = some e)
      (found' : hub'.get? id = some e') : e'.undated = e.undated := by
    have images := Hub.get?_undated same id
    rw [found, found'] at images
    exact Option.some.inj images
  cases kind : d.kind? with
  | none => simp only [plan, kind]
  | some k =>
    cases route : k.route with
    | discover =>
      simp only [plan, kind, route, Ports.store, Hub.ports]
      cases outages.fetchAll with
      | some e => rfl
      | none =>
        have endpoints := devices.endpoints q.settings
        simp only [Outages.guard, discovered, endpoints]
    | reportState =>
      simp only [plan, kind, route]
      rcases lookUp_cases devices q now outages d with
        ⟨refusal, first, second⟩ | ⟨e, e', endpoint, first, second, -⟩
      · rw [first, second]
      · rw [first, second]
        obtain ⟨id, named, -, stored, -⟩ := lookUp_eq_ok.1 first
        obtain ⟨id', named', -, stored', -⟩ := lookUp_eq_ok.1 second
        obtain rfl : id' = id := Option.some.inj (named'.symm.trans named)
        have later := Entity.eq_dated_of_undated_eq
          (entity (Hub.get?_of_ports_fetch stored) (Hub.get?_of_ports_fetch stored'))
        rw [later]
        rfl
    | control judge =>
      refine plan_congr kind route devices ?_
      intro _ id e e' _ found found'
      exact (Entity.undated_eq_iff.1 (entity found found')).2.2

namespace Hub

variable {a b : Arrival}

/-- A message that comes again to a hub that is the same but for the times gets the same reply, and
leaves a hub that is the same but for the times. -/
theorem handled_undated (settings : Settings) (same : hub'.undated = hub.undated)
    (again : a.Repeats b) :
    (hub'.reply settings b).map Response.unstamped =
        (hub.reply settings a).map Response.unstamped ∧
      (hub'.after settings b).undated = (hub.after settings a).undated := by
  cases hd : Directive.ofMessage a.message with
  | error e =>
    have hd' : Directive.ofMessage b.message = .error e := again.message ▸ hd
    rw [reply_of_error hd, reply_of_error hd', after_of_error hd, after_of_error hd']
    exact ⟨rfl, same⟩
  | ok d =>
    have hd' : Directive.ofMessage b.message = .ok d := again.message ▸ hd
    have stands : a.plan settings d hub' = a.plan settings d hub :=
      (a.request settings).plan_undated same a.now a.outages d
    refine ⟨reply_congr again hd stands (sameDevices_of_undated_eq same), ?_⟩
    rw [after_eq_afterCall hd, after_eq_afterCall hd', (Arrival.alike_plan again stands).call?]
    cases (a.plan settings d hub).call? with
    | none => exact same
    | some c =>
      unfold afterCall Arrival.ports ports
      rw [again.outages]
      cases a.outages.call with
      | some e => exact same
      | none => exact undated_attempt same c a.now b.now

/-- Messages that come again, one after another, get the same replies and leave a hub that is the
same but for the times. -/
theorem all_handled_undated (settings : Settings) {ι : Type} {arrivals again : ι → Arrival}
    (repeats : ∀ i, (arrivals i).Repeats (again i)) (same : hub'.undated = hub.undated)
    (order : List ι) :
    (hub'.replies settings (order.map again)).map (Except.map Response.unstamped) =
        (hub.replies settings (order.map arrivals)).map (Except.map Response.unstamped) ∧
      (hub'.afterAll settings (order.map again)).undated =
        (hub.afterAll settings (order.map arrivals)).undated := by
  induction order generalizing hub hub' with
  | nil => exact ⟨rfl, same⟩
  | cons i rest ih =>
    obtain ⟨reply, after⟩ := handled_undated settings same (repeats i)
    obtain ⟨replies, last⟩ := ih after
    exact ⟨congrArg₂ List.cons reply replies, last⟩

end Hub

end HomeVoice
