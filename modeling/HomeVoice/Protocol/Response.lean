import HomeVoice.Protocol.Directive
import HomeVoice.Protocol.Reading
import HomeVoice.Uuid

/-!
# Responses

The answer to a directive repeats its correlation token and the block that named its endpoint.
What is new in it, its id and the time of its readings, comes as a `Stamp`.
-/

namespace HomeVoice

/-- The fresh ids and the time that handling a directive takes from outside. -/
structure Stamp where
  messageId : Uuid
  eventId : Uuid
  now : Timestamp
  deriving DecidableEq

/-- An answer. -/
structure Response where
  nameSpace : String
  name : String
  messageId : Uuid
  correlationToken : Option String
  endpoint : Option EndpointRef
  payload : Dict Json
  /-- The readings of the context block, when there is one. -/
  context : Option (List Reading)
  /-- When the readings were taken. -/
  sampledAt : Timestamp

namespace Response

/-- The name of answers that carry a refusal. -/
def errorName : String := "ErrorResponse"

/-- An answer to a directive without payload and context. -/
def reply (stamp : Stamp) (d : Directive) (nameSpace name : String) : Response where
  nameSpace := nameSpace
  name := name
  messageId := stamp.messageId
  correlationToken := d.header.correlationToken
  endpoint := d.endpoint
  payload := []
  context := none
  sampledAt := stamp.now

/-- The answer with a payload. -/
def withPayload (r : Response) (payload : Dict Json) : Response :=
  { r with payload }

/-- The answer with a context block, even when there are no readings. -/
def withReadings (r : Response) (readings : List Reading) : Response :=
  { r with context := some readings }

/-- The answer that carries a refusal. -/
def refuse (stamp : Stamp) (d : Directive) (refusal : Refusal) : Response :=
  (reply stamp d refusal.nameSpace errorName).withPayload refusal.payload

/-- Whether the answer carries a refusal. -/
def isError (r : Response) : Bool :=
  r.name = errorName

/-- The header of an answer as JSON. -/
def headerJson (r : Response) : Json :=
  .object ([
      ("namespace", .str r.nameSpace),
      ("name", .str r.name),
      ("messageId", .str r.messageId.text),
      ("payloadVersion", .str protocolVersion)]
    ++ (r.correlationToken.map fun token => ("correlationToken", Json.str token)).toList)

/-- The answer as JSON. -/
def toJson (r : Response) : Json :=
  let event : Json := .object ([("header", r.headerJson), ("payload", .obj r.payload)]
    ++ (r.endpoint.map fun e => ("endpoint", e.toJson)).toList)
  let context := r.context.map fun readings =>
    ("context", Json.object [("properties", .arr (readings.map (Reading.toJson r.sampledAt)))])
  .object (("event", event) :: context.toList)

end Response

end HomeVoice
