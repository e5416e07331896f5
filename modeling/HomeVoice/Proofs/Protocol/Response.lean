import HomeVoice.Proofs.Json.Object
import HomeVoice.Protocol.Response

/-!
# Answers as JSON

What stands under the paths of an answer once it has been written, by the parts of the answer, and
what a refusal tells in its payload.
-/

namespace HomeVoice

namespace Refusal

variable (refusal : Refusal)

/-- Besides the valid range, a refusal tells its kind and its message. -/
theorem get?_payload_of_ne {key : String} (other : key ≠ "validRange") :
    refusal.payload.get? key =
      Dict.get? [("message", .str refusal.message), ("type", .str refusal.kind)] key := by
  have told := Dict.get?_ofEntries
    [("type", Json.str refusal.kind), ("message", .str refusal.message)] key
  unfold payload
  cases refusal.validRange? with
  | none => exact told
  | some range => exact (Dict.get?_insert_of_ne other _ _).trans told

/-- The payload of the answer to a refusal says of which kind it is. -/
theorem get?_type_payload : refusal.payload.get? "type" = some (.str refusal.kind) :=
  refusal.get?_payload_of_ne (by decide)

theorem get?_message_payload : refusal.payload.get? "message" = some (.str refusal.message) :=
  refusal.get?_payload_of_ne (by decide)

theorem get?_validRange_payload : refusal.payload.get? "validRange" = refusal.validRange? := by
  unfold payload
  cases refusal.validRange? with
  | none => exact Dict.get?_ofEntries _ _
  | some range => exact Dict.get?_insert_self ..

/-- Only a temperature out of range has a valid range. -/
theorem isSome_validRange?_iff :
    refusal.validRange?.isSome = true ↔ refusal.kind = "TEMPERATURE_VALUE_OUT_OF_RANGE" := by
  cases refusal <;> simp [validRange?, kind]

/-- Refusals are answers of the assistant's own namespace, except those of a mode. -/
theorem nameSpace_eq :
    refusal.nameSpace =
      if refusal.kind = "UNSUPPORTED_THERMOSTAT_MODE" then "Alexa.ThermostatController"
      else "Alexa" := by
  cases refusal <;> rfl

end Refusal

namespace Response

variable (r : Response)

/-- The part of an answer that repeats what was asked. -/
def eventJson : Json :=
  .object ([("header", r.headerJson), ("payload", .obj r.payload)]
    ++ (r.endpoint.map fun e => ("endpoint", e.toJson)).toList)

theorem field?_event : r.toJson.field? "event" = some r.eventJson := by
  refine (Json.field?_object _ _).trans ?_
  cases r.context <;> rfl

theorem field?_eventJson_header : r.eventJson.field? "header" = some r.headerJson := by
  refine (Json.field?_object _ _).trans ?_
  cases r.endpoint <;> rfl

theorem field?_eventJson_payload : r.eventJson.field? "payload" = some (.obj r.payload) := by
  refine (Json.field?_object _ _).trans ?_
  cases r.endpoint <;> rfl

theorem field?_eventJson_endpoint :
    r.eventJson.field? "endpoint" = r.endpoint.map EndpointRef.toJson := by
  refine (Json.field?_object _ _).trans ?_
  cases r.endpoint <;> rfl

theorem at?_header (key : String) :
    r.toJson.at? ["event", "header", key] = r.headerJson.field? key := by
  simp only [Json.at?, field?_event, field?_eventJson_header, Option.bind_some,
    Option.bind_fun_some]

theorem at?_payload (key : String) :
    r.toJson.at? ["event", "payload", key] = r.payload.get? key := by
  simp only [Json.at?, field?_event, field?_eventJson_payload, Option.bind_some,
    Option.bind_fun_some]
  rfl

theorem at?_endpoint : r.toJson.at? ["event", "endpoint"] = r.endpoint.map EndpointRef.toJson := by
  simp only [Json.at?, field?_event, field?_eventJson_endpoint, Option.bind_some,
    Option.bind_fun_some]

theorem isSome_at?_context : (r.toJson.at? ["context"]).isSome = r.context.isSome := by
  have context : r.toJson.field? "context" = _ := Json.field?_object _ _
  simp only [Json.at?, Option.bind_fun_some, context]
  cases r.context <;> rfl

theorem field?_headerJson_token :
    r.headerJson.field? "correlationToken" = r.correlationToken.map Json.str := by
  refine (Json.field?_object _ _).trans ?_
  cases r.correlationToken <;> rfl

/-- Besides the token, the header of an answer holds what every answer says of itself. -/
theorem field?_headerJson_of_ne {key : String} (other : key ≠ "correlationToken") :
    r.headerJson.field? key =
      Dict.get? [("payloadVersion", .str protocolVersion), ("messageId", .str r.messageId.text),
        ("name", .str r.name), ("namespace", .str r.nameSpace)] key := by
  refine (Json.field?_object _ _).trans ?_
  cases r.correlationToken with
  | none => rfl
  | some token => exact if_neg other.symm

end Response

end HomeVoice
