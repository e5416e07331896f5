import HomeVoice.Hub.Ports

/-!
# The table of the virtual hub

The virtual hub keeps its entities in a table. Each entity stands in a slot under a key, its id, and
the slots are in no particular order. A call edits an entity in its slot and does not touch the key.
Only when all entities are asked for are they put in order.
-/

namespace HomeVoice

namespace EntityId

/-- Where the dot stands that separates the names of an id. -/
def separator (id : EntityId) : Nat :=
  id.domainName.utf8ByteSize

/-- The comparison of ids: by their texts, and then by where the separators stand. -/
def order (a b : EntityId) : Ordering :=
  (compare a.text b.text).then (compare a.separator b.separator)

end EntityId

/-- A table of entities under keys. -/
structure EntityTable where
  slots : List (EntityId × Entity)

namespace EntityTable

/-- The slots with an entity put under a key: into the slot of the key, or into a new one. -/
def put (key : EntityId) (e : Entity) : List (EntityId × Entity) → List (EntityId × Entity)
  | [] => [(key, e)]
  | slot :: rest => if slot.1 = key then (slot.1, e) :: rest else slot :: put key e rest

/-- The table without entities. -/
def empty : EntityTable := ⟨[]⟩

/-- The snapshot of an entity. -/
def get? (t : EntityTable) (id : EntityId) : Option Entity :=
  (t.slots.find? fun slot => slot.1 = id).map Prod.snd

/-- The number of entities. -/
def size (t : EntityTable) : Nat :=
  t.slots.length

/-- The snapshots of all entities, in ascending order of their ids. -/
def all (t : EntityTable) : List Entity :=
  (t.slots.map Prod.snd).mergeSort fun a b => (a.id.order b.id).isLE

/-- The table with an entity put under a key. -/
def set (t : EntityTable) (key : EntityId) (e : Entity) : EntityTable :=
  ⟨put key e t.slots⟩

/-- The table with an entity put under its id. -/
def upsert (t : EntityTable) (e : Entity) : EntityTable :=
  t.set e.id e

/-- The table of a list of entities, where the last one of an id counts. -/
def ofEntities (entities : List Entity) : EntityTable :=
  entities.foldl upsert empty

/-- The table after a call that may fail, and whether it did: the entity that is called is edited in
its slot. -/
def attempt (t : EntityTable) (c : ServiceCall) (now : Timestamp) :
    Except HubError Unit × EntityTable :=
  match t.get? c.target with
  | none => (.error (.notFound "Entity" c.target.text), t)
  | some e =>
    let (done, e') := (Edit.call c now).run e
    (done.mapError (Rejection.toError c), t.set c.target e')

/-- The table as what answers an exchange at a time. It keeps no audit events. -/
def ports (now : Timestamp) (outages : Outages) : Ports EntityTable where
  fetch t id := Outages.guard outages.fetch (t.get? id)
  fetchAll t := Outages.guard outages.fetchAll t.all
  call t c _ :=
    match outages.call with
    | some e => (.error e, t)
    | none => t.attempt c now
  publish t _ := (Outages.guard outages.publish (), t)

end EntityTable

end HomeVoice
