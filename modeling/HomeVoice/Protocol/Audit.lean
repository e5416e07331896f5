import HomeVoice.Entity.Id
import HomeVoice.Time.Reader
import HomeVoice.Uuid

/-!
# Audit events

Each directive leaves one record: what was asked, what was answered, and who asked. A fault that
the caller is not told of stands in the record.
-/

namespace HomeVoice

/-- Who a request comes from. -/
structure RequestContext where
  id : Uuid
  user : Option String
  deriving DecidableEq

namespace RequestContext

/-- The context as JSON. -/
def toJson (c : RequestContext) : Json :=
  .object (("id", .str c.id.text) :: (c.user.map fun user => ("user_id", Json.str user)).toList)

/-- A context in JSON. -/
def decode : Decoder RequestContext :=
  Record.decode "RequestContext"
    (RequestContext.mk <$> .required "id" Uuid.decode
      <*> .defaulted "user_id" (.optional Decoder.string) none)

end RequestContext

/-- What was asked, and of which entity. -/
structure AuditedRequest where
  nameSpace : String
  name : String
  entity : Option EntityId
  deriving DecidableEq

/-- A request in JSON. -/
def AuditedRequest.decode : Decoder AuditedRequest :=
  Record.decode "AuditedRequest"
    (AuditedRequest.mk <$> .required "namespace" Decoder.string
      <*> .required "name" Decoder.string
      <*> .defaulted "entity_id" (.optional EntityId.decode) none)

/-- What was answered. -/
structure AuditedResponse where
  nameSpace : String
  name : String
  deriving DecidableEq

/-- A response in JSON. -/
def AuditedResponse.decode : Decoder AuditedResponse :=
  Record.decode "AuditedResponse"
    (AuditedResponse.mk <$> .required "namespace" Decoder.string
      <*> .required "name" Decoder.string)

/-- The record of one directive. -/
structure AuditEvent where
  id : Uuid
  timestamp : Timestamp
  request : AuditedRequest
  response : AuditedResponse
  context : RequestContext
  detail : Option String
  deriving DecidableEq

namespace AuditEvent

/-- The record as JSON, without what it lacks. -/
def toJson (e : AuditEvent) : Json :=
  .object ([
      ("id", .str e.id.text),
      ("timestamp", .str e.timestamp.recordText),
      ("request", .object ([
          ("namespace", .str e.request.nameSpace),
          ("name", .str e.request.name)]
        ++ (e.request.entity.map fun id => ("entity_id", Json.str id.text)).toList)),
      ("response", .object [
        ("namespace", .str e.response.nameSpace),
        ("name", .str e.response.name)]),
      ("context", e.context.toJson)]
    ++ (e.detail.map fun detail => ("detail", Json.str detail)).toList)

/-- A record in JSON. -/
def decode : Decoder AuditEvent :=
  Record.decode "AuditEvent"
    (AuditEvent.mk <$> .required "id" Uuid.decode
      <*> .required "timestamp" Timestamp.decode
      <*> .required "request" AuditedRequest.decode
      <*> .required "response" AuditedResponse.decode
      <*> .required "context" RequestContext.decode
      <*> .defaulted "detail" (.optional Decoder.string) none)

end AuditEvent

end HomeVoice
