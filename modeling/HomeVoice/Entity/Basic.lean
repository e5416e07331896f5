import HomeVoice.Entity.Attributes
import HomeVoice.Entity.Id
import HomeVoice.Time.Reader

/-!
# Entities

A snapshot of one entity of the hub: its id, its state as text, its attributes and the time of its
last change.
-/

namespace HomeVoice

/-- A snapshot of an entity. -/
structure Entity where
  id : EntityId
  state : String
  attributes : Attributes
  lastUpdated : Timestamp

namespace Entity

/-- The state of an entity of which nothing is known. -/
def unknownState : String := "unknown"

/-- The domain of an entity. -/
def domain (e : Entity) : Domain :=
  e.id.domain

/-- The name by which people speak of an entity: the attribute `friendly_name`, or else the name
in the id. -/
def name (e : Entity) : String :=
  (e.attributes.text? "friendly_name").getD e.id.spokenName

/-- The entity in another state. -/
def withState (e : Entity) (state : String) : Entity :=
  { e with state }

/-- The entity with an attribute set. -/
def withAttribute (e : Entity) (key : String) (value : AttributeValue) : Entity :=
  { e with attributes := e.attributes.insert key value }

/-- The entity as JSON. -/
def toJson (e : Entity) : Json :=
  .object [
    ("entity_id", .str e.id.text),
    ("state", .str e.state),
    ("attributes", e.attributes.toJson),
    ("last_updated", .str e.lastUpdated.recordText)]

/-- The fields of an entity. One without a time of change is taken to have changed at `now`. -/
def record (now : Timestamp) : Record Entity :=
  Entity.mk <$> .required "entity_id" EntityId.decode
    <*> .required "state" Decoder.string
    <*> .defaulted "attributes" Attributes.decode .empty
    <*> .defaulted "last_updated" Timestamp.decode now

/-- An entity in JSON. -/
def decode (now : Timestamp) : Decoder Entity :=
  (record now).decode "Entity"

/-- Whether a state means that a device is on. -/
def isPoweredState (state : String) : Bool :=
  state = "on" || state = "open" || state = "playing" || state = "paused"

end Entity

end HomeVoice
