import HomeVoice.Entity.Id
import HomeVoice.Text.Slice

/-!
# Ids with the place of their separator

An id can be kept as its whole text and the place of the separator in it, counted in bytes, so that
its two names are slices of the text. Such ids are ordered by their texts first and then by the
place. `IndexedId.parse` reads the same ids as `EntityId.parse`; that it never cuts a character is
proved in `HomeVoice.Proofs.Entity.Grammar`.
-/

namespace HomeVoice

/-- An id as its text and the place of the separator. -/
structure IndexedId where
  text : String
  separator : Nat
  deriving DecidableEq, Ord

namespace IndexedId

/-- The id of a text, with the place of its first dot. -/
def parse (s : String) : Except ValidationError IndexedId :=
  if s.isEmpty then .error .emptyEntityId
  else
    match s.find? '.' with
    | none => .error (.malformedEntityId s)
    | some place =>
      let separator := place.offset.byteIdx
      if 0 < separator ∧ separator + 1 < s.utf8ByteSize then .ok ⟨s, separator⟩
      else .error (.malformedEntityId s)

/-- The name of the domain: what stands before the separator. -/
def domainName? (id : IndexedId) : Option String :=
  Text.slice? id.text 0 id.separator

/-- The name within the domain: what stands after the separator, which is one byte long. -/
def objectName? (id : IndexedId) : Option String :=
  Text.slice? id.text (id.separator + 1) id.text.utf8ByteSize

/-- The domain of an id. -/
def domain? (id : IndexedId) : Option Domain :=
  id.domainName?.map Domain.ofName

/-- The id of two names. -/
def ofId (id : EntityId) : IndexedId :=
  ⟨id.text, id.domainName.utf8ByteSize⟩

/-- An id as JSON. -/
def toJson (id : IndexedId) : Json :=
  .str id.text

/-- An id in JSON. -/
def decode : Decoder IndexedId :=
  Decoder.string.filterMap fun s => (parse s).mapError fun e => .refused e.message

end IndexedId

end HomeVoice
