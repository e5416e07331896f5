import HomeVoice.Proofs.Discovery.Endpoint
import HomeVoice.Proofs.Entity.Id
import HomeVoice.Proofs.Hub.Map
import Mathlib.Data.List.Forall2

/-!
# The list of endpoints

Discovery lists one endpoint for each entity that is shown, in the order of the entities. For a hub
this is the order of their ids, and as long as no id has a number sign the endpoint ids tell the
entities apart.
-/

namespace HomeVoice

/-- The assistant may know of an entity when it is exposed and becomes an endpoint. -/
def Settings.shows (s : Settings) (e : Entity) : Bool :=
  s.exposure.exposes e.id && (e.endpoint? (s.presentation? e.id)).isSome

namespace Settings

variable {s : Settings} {e : Entity}

theorem shows_iff :
    s.shows e = true ↔ s.exposure.exposes e.id = true ∧
      ∃ endpoint, e.endpoint? (s.presentation? e.id) = some endpoint := by
  simp [shows, Option.isSome_iff_exists]

/-- Each entity that is shown has its endpoint in the list, in the same place. -/
theorem forall₂_endpoints (s : Settings) (entities : List Entity) :
    List.Forall₂ (fun e endpoint => e.endpoint? (s.presentation? e.id) = some endpoint)
      (entities.filter s.shows) (s.endpoints entities) := by
  induction entities with
  | nil => exact .nil
  | cons e rest ih =>
    unfold endpoints at ih ⊢
    by_cases exposed : s.exposure.exposes e.id = true
    · cases made : e.endpoint? (s.presentation? e.id) with
      | none =>
        have hidden : s.shows e = false := by simp [shows, made]
        simpa [hidden, exposed, made] using ih
      | some endpoint =>
        have shown : s.shows e = true := shows_iff.2 ⟨exposed, endpoint, made⟩
        simpa [shown, exposed, made] using ih
    · have hidden : s.shows e = false := by simp [shows, exposed]
      simpa [hidden, exposed] using ih

/-- The ids in the list are those of the entities that are shown. -/
theorem map_id_endpoints (s : Settings) (entities : List Entity) :
    (s.endpoints entities).map Endpoint.id =
      (entities.filter s.shows).map fun e => EndpointId.ofEntityId e.id := by
  have matched := s.forall₂_endpoints entities
  generalize entities.filter s.shows = shown at matched
  generalize s.endpoints entities = endpoints at matched
  induction matched with
  | nil => rfl
  | cons made _ ih => rw [List.map_cons, List.map_cons, ih, Entity.id_of_endpoint?_eq_some made]

end Settings

namespace Hub

variable {hub : Hub}

/-- Of a hub without number signs in its ids, an entity is listed exactly when it is shown. -/
theorem ofEntityId_mem_endpoints_iff (plain : ∀ e ∈ hub.entities, '#' ∉ e.id.text.toList)
    (s : Settings) {e : Entity} (member : e ∈ hub.entities) :
    EndpointId.ofEntityId e.id ∈ (s.endpoints hub.entities).map Endpoint.id ↔
      s.shows e = true := by
  rw [s.map_id_endpoints]
  constructor
  · intro listed
    obtain ⟨e', member', same⟩ := List.mem_map.1 listed
    obtain ⟨member', shown⟩ := List.mem_filter.1 member'
    have id := EndpointId.ofEntityId_inj (plain e' member') (plain e member) same
    rwa [eq_of_id_eq member' member id] at shown
  · intro shown
    exact List.mem_map.2 ⟨e, List.mem_filter.2 ⟨member, shown⟩, rfl⟩

/-- No two endpoints of such a hub have one id. -/
theorem nodup_endpoints (plain : ∀ e ∈ hub.entities, '#' ∉ e.id.text.toList) (s : Settings) :
    ((s.endpoints hub.entities).map Endpoint.id).Nodup := by
  rw [s.map_id_endpoints]
  refine List.Nodup.map_on ?_ ((List.Nodup.of_map Entity.id hub.nodup_ids).filter _)
  intro x hx y hy same
  have hx := (List.mem_filter.1 hx).1
  have hy := (List.mem_filter.1 hy).1
  exact eq_of_id_eq hx hy (EndpointId.ofEntityId_inj (plain x hx) (plain y hy) same)

end Hub

end HomeVoice
