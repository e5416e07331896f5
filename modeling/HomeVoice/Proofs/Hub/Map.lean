import HomeVoice.Hub.Ports
import Mathlib.Data.List.Nodup

/-!
# The hub as a finite map

The entities of a hub, seen through `Hub.get?`: an id leads to at most one entity, storing an
entity changes what its own id leads to and nothing else, and storing one in the place of another
leaves the ids as they were.
-/

namespace HomeVoice

/-- Where no two items have one key, looking a key up finds the item that has it. -/
theorem find?_key_eq_some_iff {α κ : Type} [DecidableEq κ] (key : α → κ) {l : List α}
    (distinct : (l.map key).Nodup) {k : κ} {x : α} :
    l.find? (fun y => key y = k) = some x ↔ x ∈ l ∧ key x = k := by
  constructor
  · intro found
    exact ⟨List.mem_of_find?_eq_some found, by simpa using List.find?_some found⟩
  · rintro ⟨member, rfl⟩
    cases found : l.find? fun y => key y = key x with
    | none => simpa using List.find?_eq_none.1 found x member
    | some y =>
      have same : key y = key x := by simpa using List.find?_some found
      rw [List.inj_on_of_nodup_map distinct (List.mem_of_find?_eq_some found) member same]

theorem find?_insertEntity (e : Entity) (l : List Entity) (id : EntityId) :
    (insertEntity e l).find? (fun x => x.id = id) =
      if e.id = id then some e else l.find? fun x => x.id = id := by
  induction l with
  | nil => by_cases h : e.id = id <;> simp [insertEntity, h]
  | cons x rest ih =>
    unfold insertEntity
    split
    · by_cases h : e.id = id <;> simp [h]
    · split
      · next heq => by_cases h : e.id = id <;> simp [heq, h]
      · next hne =>
        by_cases hx : x.id = id
        · have : e.id ≠ id := fun h => hne (hx.trans h.symm)
          simp [hx, this]
        · simp [hx, ih]

/-- Storing an entity whose id is there already leaves the ids as they were. -/
theorem map_id_insertEntity {e : Entity} {l : List Entity} (ascending : AscendingIds l)
    (stored : ∃ x ∈ l, x.id = e.id) : (insertEntity e l).map Entity.id = l.map Entity.id := by
  induction l with
  | nil => simp at stored
  | cons x rest ih =>
    obtain ⟨hx, hrest⟩ := List.pairwise_cons.1 ascending
    unfold insertEntity
    split
    · next before =>
      -- The entity would come before all others, yet one of them has its id.
      obtain ⟨y, hy, heq⟩ := stored
      rcases List.mem_cons.1 hy with rfl | hy
      · exact absurd (heq ▸ before) (EntityId.lt_irrefl _)
      · exact absurd (EntityId.lt_trans before (heq ▸ hx y hy)) (EntityId.lt_irrefl _)
    · split
      · next heq => simp [heq]
      · next hne =>
        obtain ⟨y, hy, heq⟩ := stored
        rcases List.mem_cons.1 hy with rfl | hy
        · exact absurd heq hne
        · simp [ih hrest ⟨y, hy, heq⟩]

namespace Hub

variable {hub : Hub} {e : Entity} {id : EntityId}

theorem nodup_ids (hub : Hub) : (hub.entities.map Entity.id).Nodup := by
  refine List.pairwise_map.2 (hub.ascending.imp ?_)
  intro a b before heq
  exact EntityId.lt_irrefl b.id (heq ▸ before)

/-- No two entities of a hub have one id. -/
theorem eq_of_id_eq {x y : Entity} (hx : x ∈ hub.entities) (hy : y ∈ hub.entities)
    (h : x.id = y.id) : x = y :=
  List.inj_on_of_nodup_map hub.nodup_ids hx hy h

theorem get?_eq_some_iff : hub.get? id = some e ↔ e ∈ hub.entities ∧ e.id = id :=
  find?_key_eq_some_iff Entity.id hub.nodup_ids

theorem get?_eq_none_iff : hub.get? id = none ↔ ∀ e ∈ hub.entities, e.id ≠ id := by
  simp [get?, List.find?_eq_none]

theorem get?_upsert : (hub.upsert e).get? id = if e.id = id then some e else hub.get? id :=
  find?_insertEntity e hub.entities id

theorem ids_upsert (stored : ∃ x ∈ hub.entities, x.id = e.id) :
    (hub.upsert e).entities.map Entity.id = hub.entities.map Entity.id :=
  map_id_insertEntity hub.ascending stored

end Hub

end HomeVoice
