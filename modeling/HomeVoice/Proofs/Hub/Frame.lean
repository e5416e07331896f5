import HomeVoice.Proofs.Hub.InPlace
import HomeVoice.Proofs.Hub.Service

/-!
# What calls leave alone

A call that fails leaves the hub as it was. One that succeeds changes the entity that it targets,
but not its id: every other entity is as before, and the hub has the same ids.
-/

namespace HomeVoice

namespace Entity

/-- A call is accepted when it is in the domain of the entity or in the generic one and the service
is done; the time is then noted. -/
theorem apply_eq_ok {e e' : Entity} {c : ServiceCall} {now : Timestamp} :
    e.apply c now = .ok e' ↔
      (c.domain = e.id.domainName ∨ c.domain = ServiceCall.genericDomain) ∧
        ∃ served, e.serve c = .ok served ∧ { served with lastUpdated := now } = e' := by
  unfold apply
  by_cases other : c.domain ≠ e.id.domainName ∧ c.domain ≠ ServiceCall.genericDomain
  · simp [other]
  · have own : c.domain = e.id.domainName ∨ c.domain = ServiceCall.genericDomain := by grind
    cases h : e.serve c <;> simp [other, own]

theorem id_apply {e e' : Entity} {c : ServiceCall} {now : Timestamp}
    (h : e.apply c now = .ok e') : e'.id = e.id := by
  obtain ⟨_, served, hserved, rfl⟩ := apply_eq_ok.1 h
  exact (SameDevice.serve hserved).id

end Entity

theorem Outages.guard_eq_ok {α : Type} {outage : Option HubError} {x y : α} :
    guard outage x = .ok y ↔ outage = .none ∧ x = y := by
  cases outage <;> simp [guard]

namespace Hub

variable {hub hub' : Hub} {c : ServiceCall} {now : Timestamp}

/-- `hub'` differs from `hub` at most in the entity that `id` names, and has the same ids. -/
structure Frame (id : EntityId) (hub hub' : Hub) : Prop where
  others : ∀ other, other ≠ id → hub'.get? other = hub.get? other
  ids : hub'.entities.map Entity.id = hub.entities.map Entity.id

theorem Frame.refl (id : EntityId) (hub : Hub) : Frame id hub hub :=
  ⟨fun _ _ => rfl, rfl⟩

/-- A call that succeeds puts an entity in the place of the one that it targets. -/
theorem call_eq_ok (h : hub.call c now = .ok hub') :
    ∃ e e', hub.get? c.target = some e ∧ e.apply c now = .ok e' ∧ e'.id = c.target ∧
      hub.upsert e' = hub' := by
  unfold call at h
  split at h
  · cases h
  · next e found =>
    obtain ⟨e', applied, rfl⟩ := map_eq_ok.1 h
    exact ⟨e, e', found, applied, (Entity.id_apply applied).trans (get?_eq_some_iff.1 found).2, rfl⟩

/-- A call that its target serves succeeds. -/
theorem call_of_serve {e e' : Entity} (found : hub.get? c.target = some e)
    (domain : c.domain = e.id.domainName ∨ c.domain = ServiceCall.genericDomain)
    (served : e.serve c = .ok e') :
    hub.call c now = .ok (hub.upsert { e' with lastUpdated := now }) := by
  rw [call, found]
  exact congrArg (Except.map hub.upsert) (Entity.apply_eq_ok.2 ⟨domain, e', served, rfl⟩)

theorem frame_of_call_eq_ok (h : hub.call c now = .ok hub') : Frame c.target hub hub' := by
  obtain ⟨e, e', found, applied, target, rfl⟩ := call_eq_ok h
  obtain ⟨member, id⟩ := get?_eq_some_iff.1 found
  refine ⟨?_, ids_upsert ⟨e, member, id.trans target.symm⟩⟩
  intro other hother
  rw [get?_upsert, target, if_neg hother.symm]

/-! ## Calls behind ports -/

variable {outages : Outages} {context : RequestContext} {e : HubError}

/-- What a hub hands out for an id has that id. -/
theorem id_of_ports_fetch (hub : Hub) (now : Timestamp) (outages : Outages) {id : EntityId}
    {entity : Entity} (h : (ports now outages).fetch hub id = .ok (some entity)) :
    entity.id = id := by
  have found : Outages.guard outages.fetch (hub.get? id) = .ok (some entity) := h
  exact (get?_eq_some_iff.1 (Outages.guard_eq_ok.1 found).2).2

/-- A call that fails, for whatever reason, leaves the hub as it was. -/
theorem eq_of_ports_call_error
    (h : ((ports now outages).call hub c context).1 = .error e) :
    ((ports now outages).call hub c context).2 = hub := by
  unfold ports at *
  simp only [attempt_eq] at *
  grind

theorem call_of_ports_call_ok
    (h : ((ports now outages).call hub c context).1 = .ok ()) :
    hub.call c now = .ok ((ports now outages).call hub c context).2 := by
  unfold ports at *
  simp only [attempt_eq] at *
  grind

end Hub

end HomeVoice
