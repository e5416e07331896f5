import HomeVoice.Hub.Transition

/-!
# The virtual hub

The virtual hub as it is seen from outside: its entities are in ascending order of their ids, and no
two have one id. How they are kept in memory is said by `EntityTable`.
-/

namespace HomeVoice

/-- The entities in ascending order, with `e` among them in the place of one with its id. -/
def insertEntity (e : Entity) : List Entity → List Entity
  | [] => [e]
  | x :: rest =>
    if e.id < x.id then e :: x :: rest
    else if x.id = e.id then e :: rest
    else x :: insertEntity e rest

theorem mem_insertEntity {e y : Entity} {l : List Entity} (h : y ∈ insertEntity e l) :
    y = e ∨ y ∈ l := by
  induction l with
  | nil => exact .inl (by simpa [insertEntity] using h)
  | cons x rest ih =>
    unfold insertEntity at h
    split at h
    · simpa using h
    · split at h
      · rcases List.mem_cons.1 h with rfl | h
        · exact .inl rfl
        · exact .inr (List.mem_cons_of_mem _ h)
      · rcases List.mem_cons.1 h with rfl | h
        · exact .inr List.mem_cons_self
        · exact (ih h).imp_right (List.mem_cons_of_mem _)

/-- Ids ascend strictly. -/
def AscendingIds (l : List Entity) : Prop :=
  l.Pairwise fun a b => a.id < b.id

theorem ascendingIds_insertEntity (e : Entity) {l : List Entity} (h : AscendingIds l) :
    AscendingIds (insertEntity e l) := by
  unfold AscendingIds at *
  induction l with
  | nil => simp [insertEntity]
  | cons x rest ih =>
    obtain ⟨hx, hrest⟩ := List.pairwise_cons.1 h
    unfold insertEntity
    split
    · next hlt =>
      refine List.pairwise_cons.2 ⟨fun y hy => ?_, h⟩
      rcases List.mem_cons.1 hy with rfl | hy
      · exact hlt
      · exact EntityId.lt_trans hlt (hx y hy)
    · next hlt =>
      split
      · next heq => exact List.pairwise_cons.2 ⟨fun y hy => heq ▸ hx y hy, hrest⟩
      · next hne =>
        refine List.pairwise_cons.2 ⟨fun y hy => ?_, ih hrest⟩
        rcases mem_insertEntity hy with rfl | hy
        · exact EntityId.lt_of_not_lt_of_ne hlt hne
        · exact hx y hy

/-- The virtual hub. -/
structure Hub where
  entities : List Entity
  ascending : AscendingIds entities

namespace Hub

/-- The hub without entities. -/
def empty : Hub := ⟨[], .nil⟩

/-- The snapshot of an entity. -/
def get? (hub : Hub) (id : EntityId) : Option Entity :=
  hub.entities.find? fun e => e.id = id

/-- The number of entities. -/
def size (hub : Hub) : Nat :=
  hub.entities.length

/-- The hub with an entity added, or replaced when there is one with its id. -/
def upsert (hub : Hub) (e : Entity) : Hub :=
  ⟨insertEntity e hub.entities, ascendingIds_insertEntity e hub.ascending⟩

/-- The hub of a list of entities, where the last one of an id counts. -/
def ofEntities (entities : List Entity) : Hub :=
  entities.foldl upsert empty

/-- The hub after a call at a time. -/
def call (hub : Hub) (c : ServiceCall) (now : Timestamp) : Except HubError Hub :=
  match hub.get? c.target with
  | none => .error (.notFound "Entity" c.target.text)
  | some e => (e.apply c now).map hub.upsert

end Hub

end HomeVoice
