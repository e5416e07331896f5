import HomeVoice.Entity.Id

/-!
# Service calls

What the bridge asks of the hub: a service of a domain, applied to one entity with some data.
-/

namespace HomeVoice

/-- A call of a service. -/
structure ServiceCall where
  domain : String
  service : String
  target : EntityId
  data : Dict Json

namespace ServiceCall

/-- The domain whose services act on entities of any domain. -/
def genericDomain : String := "hub"

/-- A call without data in a domain. -/
def inDomain (domain service : String) (target : EntityId) : ServiceCall :=
  ⟨domain, service, target, []⟩

/-- A call without data in the domain of its target. -/
def own (target : EntityId) (service : String) : ServiceCall :=
  inDomain target.domainName service target

/-- The call with a field of data. -/
def withData (c : ServiceCall) (key : String) (value : Json) : ServiceCall :=
  { c with data := c.data.insert key value }

/-- Domain and service in one. -/
def qualifiedName (c : ServiceCall) : String :=
  c.domain ++ "." ++ c.service

/-- What is called on what. -/
def text (c : ServiceCall) : String :=
  c.qualifiedName ++ " -> " ++ c.target.text

/-- The call as JSON. -/
def toJson (c : ServiceCall) : Json :=
  .object [
    ("domain", .str c.domain),
    ("service", .str c.service),
    ("entity_id", .str c.target.text),
    ("data", .obj c.data)]

/-- A call in JSON. -/
def decode : Decoder ServiceCall :=
  Record.decode "ServiceCall"
    (ServiceCall.mk <$> .required "domain" Decoder.string
      <*> .required "service" Decoder.string
      <*> .required "entity_id" EntityId.decode
      <*> .defaulted "data" (.dict Decoder.json) [])

end ServiceCall

end HomeVoice
