import HomeVoice.Proofs.Hub.Frame
import Mathlib.Data.List.Forall2

/-!
# The devices of a hub

Calls change what devices are doing, never which devices there are and what they can do. Two hubs
have the same devices when their entities, one by one, are snapshots of the same devices. Such hubs
have the same endpoints, and they reject the same calls.
-/

namespace HomeVoice

namespace Entity

/-! ## One device -/

theorem SameDevice.symm {e e' : Entity} (same : e.SameDevice e') : e'.SameDevice e :=
  ⟨same.id.symm, fun key notWritten => (same.get? key notWritten).symm⟩

theorem SameDevice.trans {e e' e'' : Entity} (first : e.SameDevice e')
    (second : e'.SameDevice e'') : e.SameDevice e'' :=
  ⟨second.id.trans first.id,
    fun key notWritten => (second.get? key notWritten).trans (first.get? key notWritten)⟩

theorem sameDevice_of_apply {e e' : Entity} {c : ServiceCall} {now : Timestamp}
    (applied : e.apply c now = .ok e') : e.SameDevice e' := by
  obtain ⟨-, served, accepted, rfl⟩ := apply_eq_ok.1 applied
  exact (SameDevice.serve accepted).touched now

/-- Whether a service is done depends on the call alone. -/
theorem forget_serve (e e' : Entity) (c : ServiceCall) :
    (e'.serve c).map (fun _ => ()) = (e.serve c).map fun _ => () := by
  have forgotten {α : Type} (x : Except Rejection α) (f f' : α → Entity) :
      (x.map f').map (fun _ => ()) = (x.map f).map fun _ => () := by
    cases x <;> rfl
  unfold serve
  split
  all_goals first
    | rfl
    | exact forgotten _ _ _
    | (split <;> rfl)

/-- Whether a call on an entity is rejected, and why, depends on the call and the id alone. -/
theorem forget_apply {e e' : Entity} (id : e'.id = e.id) (c : ServiceCall)
    (now now' : Timestamp) :
    (e'.apply c now').map (fun _ => ()) = (e.apply c now).map fun _ => () := by
  have served := forget_serve e e' c
  unfold apply
  rw [id]
  by_cases other : c.domain ≠ e.id.domainName ∧ c.domain ≠ ServiceCall.genericDomain
  · simp only [if_pos other]
  · simp only [if_neg other]
    rcases cases_of_map_eq served with ⟨rejection, second, first⟩ | ⟨_, _, second, first, -⟩
    · rw [first, second]
    · rw [first, second]
      rfl

end Entity

/-! ## All devices -/

/-- An entity that is stored in the place of a related one leaves a list of related entities. -/
theorem forall₂_insertEntity {R : Entity → Entity → Prop} (refl : ∀ e, R e e) {e : Entity}
    {l : List Entity} (ascending : AscendingIds l) (stored : ∃ x ∈ l, x.id = e.id ∧ R x e) :
    List.Forall₂ R l (insertEntity e l) := by
  induction l with
  | nil => simp at stored
  | cons x rest ih =>
    obtain ⟨hx, hrest⟩ := List.pairwise_cons.1 ascending
    obtain ⟨y, member, id, related⟩ := stored
    unfold insertEntity
    split
    · next before =>
      -- The entity would come before all others, yet one of them has its id.
      rcases List.mem_cons.1 member with rfl | member
      · exact absurd (id ▸ before) (EntityId.lt_irrefl _)
      · exact absurd (EntityId.lt_trans before (id ▸ hx y member)) (EntityId.lt_irrefl _)
    · split
      · next found =>
        have same : y = x := by
          rcases List.mem_cons.1 member with rfl | later
          · rfl
          · exact absurd (found.trans id.symm ▸ hx y later) (EntityId.lt_irrefl _)
        exact .cons (same ▸ related) (List.forall₂_same.2 fun e _ => refl e)
      · next other =>
        rcases List.mem_cons.1 member with rfl | later
        · exact absurd id other
        · exact .cons (refl x) (ih hrest ⟨y, later, id, related⟩)

namespace Hub

/-- Two hubs have the same devices. -/
def SameDevices (hub hub' : Hub) : Prop :=
  List.Forall₂ Entity.SameDevice hub.entities hub'.entities

variable {hub hub' hub'' : Hub} {c : ServiceCall} {now now' : Timestamp}

theorem sameDevices_of_call (accepted : hub.call c now = .ok hub') : hub.SameDevices hub' := by
  obtain ⟨e, e', found, applied, target, rfl⟩ := call_eq_ok accepted
  obtain ⟨member, id⟩ := get?_eq_some_iff.1 found
  exact forall₂_insertEntity .refl hub.ascending
    ⟨e, member, id.trans target.symm, Entity.sameDevice_of_apply applied⟩

namespace SameDevices

theorem refl (hub : Hub) : SameDevices hub hub :=
  List.forall₂_same.2 fun e _ => .refl e

theorem trans (first : SameDevices hub hub') (second : SameDevices hub' hub'') :
    SameDevices hub hub'' := by
  unfold SameDevices at *
  generalize hub.entities = l at *
  generalize hub'.entities = l' at *
  generalize hub''.entities = l'' at *
  induction first generalizing l'' with
  | nil => exact second
  | cons same _ ih =>
    cases second with
    | cons same' rest => exact .cons (same.trans same') (ih _ rest)

/-- An id leads to snapshots of one device, or to none in both hubs. -/
theorem get?_cases (same : SameDevices hub hub') (id : EntityId) :
    (hub.get? id = none ∧ hub'.get? id = none) ∨
      ∃ e e', hub.get? id = some e ∧ hub'.get? id = some e' ∧ e.SameDevice e' := by
  unfold SameDevices at same
  unfold get?
  generalize hub.entities = l at *
  generalize hub'.entities = l' at *
  induction same with
  | nil => exact .inl ⟨rfl, rfl⟩
  | @cons e e' _ _ device _ ih =>
    by_cases found : e.id = id
    · have found' : e'.id = id := device.id.trans found
      simp only [List.find?_cons, found, found', decide_true]
      exact .inr ⟨e, e', rfl, rfl, device⟩
    · have notFound' : ¬e'.id = id := fun found' => found (device.id.symm.trans found')
      simpa only [List.find?_cons, found, notFound', decide_false] using ih

/-- Hubs with the same devices have the same endpoints. -/
theorem endpoints (same : SameDevices hub hub') (settings : Settings) :
    settings.endpoints hub'.entities = settings.endpoints hub.entities := by
  unfold SameDevices at same
  generalize hub.entities = l at *
  generalize hub'.entities = l' at *
  induction same with
  | nil => rfl
  | @cons e e' _ _ device _ ih =>
    unfold Settings.endpoints at ih ⊢
    rw [List.filter_cons, List.filter_cons, device.id]
    split
    · rw [List.filterMap_cons, List.filterMap_cons, device.id, device.endpoint?, ih]
    · exact ih

/-- Hubs with the same devices reject the same calls. -/
theorem attempt (same : SameDevices hub hub') (c : ServiceCall) (now now' : Timestamp) :
    (hub'.attempt c now').1 = (hub.attempt c now).1 := by
  have forgotten (hub : Hub) (now : Timestamp) :
      (hub.attempt c now).1 = (hub.call c now).map fun _ => () := by
    rw [attempt_eq]
    cases hub.call c now <;> rfl
  rw [forgotten, forgotten]
  unfold Hub.call
  rcases same.get?_cases c.target with ⟨first, second⟩ | ⟨e, e', first, second, device⟩
  · rw [first, second]
  · rw [first, second]
    rcases cases_of_map_eq (Entity.forget_apply device.id c now now') with
      ⟨error, applied', applied⟩ | ⟨_, _, applied', applied, -⟩
    · simp only [applied, applied']
      rfl
    · simp only [applied, applied']
      rfl

end SameDevices

end Hub

end HomeVoice
