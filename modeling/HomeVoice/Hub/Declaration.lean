import HomeVoice.Entity.Basic

/-!
# Declared entities

The entities that a virtual hub starts with are declared by id, state and attributes. Whether the
id is well formed is only asked when the entity is made.
-/

namespace HomeVoice

/-- The declaration of an entity. -/
structure EntityDeclaration where
  id : String
  state : String
  attributes : Dict Json

namespace EntityDeclaration

/-- The entity that is declared, last changed at `now`. -/
def toEntity (d : EntityDeclaration) (now : Timestamp) : Except ValidationError Entity :=
  (EntityId.parse d.id).map fun id => ⟨id, d.state, .ofFields d.attributes, now⟩

/-- The declaration as JSON. -/
def toJson (d : EntityDeclaration) : Json :=
  .object [
    ("entity_id", .str d.id),
    ("state", .str d.state),
    ("attributes", .obj d.attributes)]

/-- A declaration in a data format. -/
def decode (format : DataFormat) : Decoder EntityDeclaration :=
  Record.decodeIn format "EntityDeclaration"
    (EntityDeclaration.mk <$> .required "entity_id" Decoder.string
      <*> .required "state" Decoder.string
      <*> .defaulted "attributes" (.dict Decoder.json) [])

end EntityDeclaration

end HomeVoice
