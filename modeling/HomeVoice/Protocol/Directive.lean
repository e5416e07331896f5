import HomeVoice.Protocol.Interface
import HomeVoice.Protocol.Payload

/-!
# Directives

A directive is a header, the endpoint that it is about and a payload. It comes in a message
`{"directive": …}`, and only directives of the one version of the protocol are read. The block
that names the endpoint may hold more, which is kept so that an answer can repeat it.
-/

namespace HomeVoice

/-- The header of a directive. -/
structure DirectiveHeader where
  nameSpace : String
  name : String
  messageId : String
  correlationToken : Option String
  payloadVersion : String
  deriving DecidableEq

/-- The endpoint that a directive is about, and what else stands beside its id. -/
structure EndpointRef where
  id : EndpointId
  extra : Dict Json

/-- A directive. -/
structure Directive where
  header : DirectiveHeader
  endpoint : Option EndpointRef
  payload : Payload

namespace DirectiveHeader

/-- The header as JSON; a correlation token that is not there is left out. -/
def toJson (h : DirectiveHeader) : Json :=
  .object ([
      ("namespace", .str h.nameSpace),
      ("name", .str h.name),
      ("messageId", .str h.messageId),
      ("payloadVersion", .str h.payloadVersion)]
    ++ (h.correlationToken.map fun token => ("correlationToken", Json.str token)).toList)

/-- A header in JSON. -/
def decode : Decoder DirectiveHeader :=
  Record.decode "DirectiveHeader"
    (DirectiveHeader.mk <$> .required "namespace" Decoder.string
      <*> .required "name" Decoder.string
      <*> .defaulted "messageId" Decoder.string ""
      <*> .defaulted "correlationToken" (.optional Decoder.string) none
      <*> .required "payloadVersion" Decoder.string)

end DirectiveHeader

namespace EndpointRef

/-- The block as JSON, with everything that stood beside the id. -/
def toJson (e : EndpointRef) : Json :=
  .obj (e.extra.insert "endpointId" (.str e.id.text))

/-- A block in JSON; unlike other structures it must be an object. -/
def decode : Decoder EndpointRef
  | .obj fields =>
    match Dict.get? fields "endpointId" with
    | some j => (Decoder.string j).map fun id => ⟨⟨id⟩, Dict.erase "endpointId" fields⟩
    | none => .error (.missingField "endpointId")
  | j => .error (.wrongType j "struct EndpointRef")

end EndpointRef

namespace Directive

/-- The directive as JSON. -/
def toJson (d : Directive) : Json :=
  .object ([("header", d.header.toJson), ("payload", .obj d.payload.fields)]
    ++ (d.endpoint.map fun e => ("endpoint", e.toJson)).toList)

/-- A directive in JSON. -/
def decode : Decoder Directive :=
  Record.decode "Directive"
    (Directive.mk <$> .required "header" DirectiveHeader.decode
      <*> .defaulted "endpoint" (.optional EndpointRef.decode) none
      <*> .defaulted "payload" Payload.decode .empty)

/-- What a message holds as its directive. -/
def decodeEnvelope : Decoder (Option Json) :=
  Record.decode "Envelope" (.nullable "directive" Decoder.json)

/-- The directive of a message. -/
def ofMessage (message : Json) : Except ProtocolError Directive := do
  let envelope ← (decodeEnvelope message).mapError .malformed
  let raw ← match envelope with
    | some raw => .ok raw
    | none => .error .noDirective
  let directive ← (decode raw).mapError .malformed
  if directive.header.payloadVersion = protocolVersion then return directive
  else throw (.unsupportedVersion directive.header.payloadVersion)

/-- The kind of a directive. -/
def kind? (d : Directive) : Option DirectiveKind :=
  DirectiveKind.parse? d.header.nameSpace d.header.name

/-- The entity that a directive is about, when its endpoint id names one. -/
def target? (d : Directive) : Option EntityId :=
  d.endpoint.bind fun e => e.id.toEntityId.toOption

end Directive

end HomeVoice
