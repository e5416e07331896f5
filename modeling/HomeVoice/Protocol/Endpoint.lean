import HomeVoice.Entity.Id
import HomeVoice.Protocol.Category
import HomeVoice.Protocol.Interface

/-!
# Endpoints

What discovery tells the assistant about an entity: its names, how to show it and the interfaces
that it has.
-/

namespace HomeVoice

/-- An interface that an endpoint has, with the properties that it supports. -/
structure Capability where
  interface : Interface
  supported : List String
  /-- Whether the endpoint can be deactivated; only said of scenes and scripts. -/
  deactivation : Option Bool
  deriving DecidableEq

namespace Capability

/-- An interface with all its properties. -/
def full (i : Interface) : Capability :=
  ⟨i, i.spec.properties, none⟩

/-- The capability as JSON. -/
def toJson (c : Capability) : Json :=
  let spec := c.interface.spec
  .object ([
      ("type", .str "AlexaInterface"),
      ("interface", .str c.interface.nameSpace),
      ("version", .str protocolVersion),
      ("properties", .object [
        ("supported", .arr (c.supported.map fun name => .object [("name", .str name)])),
        ("proactivelyReported", .bool spec.proactive),
        ("retrievable", .bool spec.retrievable)])]
    ++ (c.deactivation.map fun b => ("supportsDeactivation", Json.bool b)).toList)

end Capability

/-- An endpoint. -/
structure Endpoint where
  id : EndpointId
  friendlyName : String
  description : String
  manufacturer : String
  categories : List DisplayCategory
  capabilities : List Capability
  deriving DecidableEq

namespace Endpoint

/-- The interfaces of an endpoint. -/
def interfaces (e : Endpoint) : List Interface :=
  e.capabilities.map Capability.interface

/-- The capability for an interface. -/
def capability? (e : Endpoint) (i : Interface) : Option Capability :=
  e.capabilities.find? fun c => c.interface = i

/-- Whether some interface of the endpoint accepts a directive. -/
def accepts (e : Endpoint) (k : DirectiveKind) : Bool :=
  e.interfaces.any fun i => i.accepts k

/-- The endpoint as JSON. -/
def toJson (e : Endpoint) : Json :=
  .object [
    ("endpointId", .str e.id.text),
    ("friendlyName", .str e.friendlyName),
    ("description", .str e.description),
    ("manufacturerName", .str e.manufacturer),
    ("displayCategories", .arr (e.categories.map fun c => .str c.name)),
    ("capabilities", .arr (e.capabilities.map Capability.toJson))]

end Endpoint

end HomeVoice
