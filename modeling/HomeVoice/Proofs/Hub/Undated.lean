import HomeVoice.Proofs.Hub.Devices

/-!
# Hubs but for the time

When an entity has changed is noted and never looked at. Two hubs that differ in nothing else stay
so through every call, whenever the call comes.
-/

namespace HomeVoice

namespace Entity

/-- The entity with another time of its last change. -/
def dated (e : Entity) (t : Timestamp) : Entity :=
  { e with lastUpdated := t }

/-- The entity without the time of its last change. -/
def undated (e : Entity) : Entity :=
  e.dated ⟨0, 0⟩

variable {e e' : Entity}

theorem undated_eq_iff :
    e'.undated = e.undated ↔ e'.id = e.id ∧ e'.state = e.state ∧ e'.attributes = e.attributes := by
  simp [undated, dated]

theorem sameDevice_of_undated_eq (same : e'.undated = e.undated) : e.SameDevice e' := by
  obtain ⟨id, -, attributes⟩ := undated_eq_iff.1 same
  exact ⟨id, fun key _ => by rw [attributes]⟩

theorem eq_dated_of_undated_eq (same : e'.undated = e.undated) : e' = e.dated e'.lastUpdated := by
  obtain ⟨id, state, attributes⟩ := undated_eq_iff.1 same
  rw [dated, ← id, ← state, ← attributes]

/-! ## Services and the time -/

section Dated

variable (e : Entity) (t : Timestamp)

theorem withAttribute?_dated (key : String) (value : Option AttributeValue) :
    (e.dated t).withAttribute? key value = (e.withAttribute? key value).dated t := by
  cases value <;> rfl

theorem turnedOn_dated (data : Dict Json) :
    (e.dated t).turnedOn data = (e.turnedOn data).dated t := by
  have domain : (e.dated t).domain = e.domain := rfl
  unfold turnedOn
  rw [domain]
  split
  · rfl
  · simp only [withAttribute?_dated]
    rfl
  · simp only [withAttribute?_dated]
    rfl
  · rfl

theorem turnedOff_dated : (e.dated t).turnedOff = e.turnedOff.dated t := by
  have domain : (e.dated t).domain = e.domain := rfl
  unfold turnedOff
  rw [domain]
  split <;> rfl

theorem withSetpoints_dated (data : Dict Json) :
    (e.dated t).withSetpoints data = (e.withSetpoints data).dated t := by
  simp only [withSetpoints, setpointKeys, List.foldl, withAttribute?_dated]

/-- What a service does has nothing to do with the time. -/
theorem serve_dated (c : ServiceCall) :
    (e.dated t).serve c = (e.serve c).map fun e' => e'.dated t := by
  have given {α : Type} {x : Except Rejection α} {f f' : α → Entity}
      (same : ∀ a, f' a = (f a).dated t) : x.map f' = (x.map f).map fun e' => e'.dated t := by
    cases x with
    | error rejection => rfl
    | ok a => exact congrArg Except.ok (same a)
  unfold serve
  split
  all_goals first
    | rfl
    | exact given fun _ => rfl
    | exact congrArg Except.ok (e.turnedOn_dated t c.data)
    | exact congrArg Except.ok (e.turnedOff_dated t)
    | skip
  rw [withSetpoints_dated]
  split <;> rfl

end Dated

/-- A call does the same to entities that differ in the time, whenever it comes. -/
theorem undated_apply (same : e'.undated = e.undated) (c : ServiceCall) (now now' : Timestamp) :
    (e'.apply c now').map undated = (e.apply c now).map undated := by
  have later := eq_dated_of_undated_eq same
  have served : e'.serve c = (e.serve c).map fun x => x.dated e'.lastUpdated := by
    rw [← serve_dated, ← later]
  unfold apply
  rw [served, (undated_eq_iff.1 same).1]
  by_cases other : c.domain ≠ e.id.domainName ∧ c.domain ≠ ServiceCall.genericDomain
  · simp only [if_pos other]
  · simp only [if_neg other]
    cases e.serve c <;> rfl

end Entity

/-! ## Hubs -/

theorem map_undated_insertEntity {e e' : Entity} {l l' : List Entity}
    (same : e'.undated = e.undated) (all : l'.map Entity.undated = l.map Entity.undated) :
    (insertEntity e' l').map Entity.undated = (insertEntity e l).map Entity.undated := by
  induction l generalizing l' with
  | nil =>
    obtain rfl := List.map_eq_nil_iff.1 all
    exact congrArg (fun e => [e]) same
  | cons x rest ih =>
    obtain ⟨x', rest', rfl, head, tail⟩ := List.map_eq_cons_iff.1 all
    have id : e'.id = e.id := (Entity.undated_eq_iff.1 same).1
    have id_x : x'.id = x.id := (Entity.undated_eq_iff.1 head).1
    unfold insertEntity
    rw [id, id_x]
    split
    · simp [same, head, tail]
    · split
      · simp [same, tail]
      · simp [head, ih tail]

namespace Hub

/-- The entities of a hub without the times of their last changes. -/
def undated (hub : Hub) : List Entity :=
  hub.entities.map Entity.undated

variable {hub hub' : Hub}

theorem sameDevices_of_undated_eq (same : hub'.undated = hub.undated) : hub.SameDevices hub' := by
  unfold undated SameDevices at *
  generalize hub.entities = l at *
  generalize hub'.entities = l' at *
  induction l generalizing l' with
  | nil =>
    obtain rfl := List.map_eq_nil_iff.1 same
    exact .nil
  | cons x rest ih =>
    obtain ⟨x', rest', rfl, head, tail⟩ := List.map_eq_cons_iff.1 same
    exact .cons (Entity.sameDevice_of_undated_eq head) (ih rest' tail)

theorem get?_undated (same : hub'.undated = hub.undated) (id : EntityId) :
    (hub'.get? id).map Entity.undated = (hub.get? id).map Entity.undated := by
  have found (hub : Hub) : (hub.get? id).map Entity.undated =
      hub.undated.find? fun e => e.id = id := by
    unfold get? undated
    rw [List.find?_map]
    rfl
  rw [found, found, same]

theorem undated_upsert {e e' : Entity} (same : hub'.undated = hub.undated)
    (entity : e'.undated = e.undated) : (hub'.upsert e').undated = (hub.upsert e).undated :=
  map_undated_insertEntity entity same

/-- A call does the same to hubs that differ in the time, whenever it comes. -/
theorem undated_attempt (same : hub'.undated = hub.undated) (c : ServiceCall)
    (now now' : Timestamp) :
    (hub'.attempt c now').2.undated = (hub.attempt c now).2.undated := by
  rw [attempt_eq, attempt_eq]
  unfold call
  rcases (sameDevices_of_undated_eq same).get?_cases c.target with
    ⟨first, second⟩ | ⟨e, e', first, second, -⟩
  · rw [first, second]
    exact same
  · have entity : e'.undated = e.undated := by
      have found := get?_undated same c.target
      rw [first, second] at found
      exact Option.some.inj found
    rw [first, second]
    rcases cases_of_map_eq (Entity.undated_apply entity c now now') with
      ⟨error, applied', applied⟩ | ⟨x', x, applied', applied, changed⟩
    · simp only [applied, applied']
      exact same
    · simp only [applied, applied']
      exact undated_upsert same changed

end Hub

end HomeVoice
