import HomeVoice.Entity.Attributes
import HomeVoice.Entity.Id
import HomeVoice.Measure.Range
import HomeVoice.Measure.Temperature
import HomeVoice.Protocol.Kind

/-!
# Refusals

A message that is no directive gets no answer but a `ProtocolError`. A directive that cannot be
carried out is answered by a `Refusal`, whose kind and message the caller is told. What went wrong
inside is an `InternalFault`: it is kept for the audit and the caller learns nothing of it.
-/

namespace HomeVoice

/-- Why a message is no directive. -/
inductive ProtocolError where
  | noDirective
  | malformed (cause : DecodeError)
  | unsupportedVersion (version : String)

/-- The text of a protocol error. -/
def ProtocolError.message : ProtocolError → String
  | .noDirective => "malformed directive: missing directive"
  | .malformed cause => "malformed directive: " ++ cause.message
  | .unsupportedVersion version => "unsupported payload version " ++ Text.quoted version

/-- What went wrong inside while a directive was carried out. -/
inductive InternalFault where
  | unknownDirective (nameSpace name : String)
  | attribute (entity : EntityId) (fault : AttributeFault)
  | storeFailed (error : HubError)
  | callFailed (service : String) (error : HubError)
  | described (detail : String)

/-- The description of an internal fault for the audit. -/
def InternalFault.detail : InternalFault → String
  | .unknownDirective nameSpace name => "unsupported directive " ++ nameSpace ++ "/" ++ name
  | .attribute entity fault => entity.text ++ ": " ++ fault.message
  | .storeFailed error => "state store failed: " ++ error.message
  | .callFailed service error => "service call " ++ service ++ " failed: " ++ error.message
  | .described detail => detail

/-- Why a directive is not carried out. -/
inductive Refusal where
  | noSuchEndpoint (endpoint : String)
  | internal (fault : InternalFault)
  | invalidDirective (reason : String)
  | invalidValue (reason : String)
  | valueOutOfRange (reason : String)
  | temperatureOutOfRange (value lowest highest : Binary64) (unit : TemperatureUnit)
  | unsupportedMode (mode : String)

namespace Refusal

/-- The kind of a refusal in messages. -/
def kind : Refusal → String
  | .noSuchEndpoint _ => "NO_SUCH_ENDPOINT"
  | .internal _ => "INTERNAL_ERROR"
  | .invalidDirective _ => "INVALID_DIRECTIVE"
  | .invalidValue _ => "INVALID_VALUE"
  | .valueOutOfRange _ => "VALUE_OUT_OF_RANGE"
  | .temperatureOutOfRange .. => "TEMPERATURE_VALUE_OUT_OF_RANGE"
  | .unsupportedMode _ => "UNSUPPORTED_THERMOSTAT_MODE"

/-- The namespace of the answer that carries a refusal. -/
def nameSpace : Refusal → String
  | .unsupportedMode _ => "Alexa.ThermostatController"
  | _ => "Alexa"

/-- What the caller is told. -/
def message : Refusal → String
  | .noSuchEndpoint endpoint => "endpoint for " ++ endpoint ++ " does not exist"
  | .internal _ => "internal error"
  | .invalidDirective reason | .invalidValue reason | .valueOutOfRange reason => reason
  | .temperatureOutOfRange value .. =>
    "requested temperature " ++ value.text .message ++ " is out of range"
  | .unsupportedMode mode => "thermostat mode " ++ mode ++ " is not supported"

/-- What the audit is told beyond that. -/
def detail? : Refusal → Option String
  | .internal fault => some fault.detail
  | _ => none

/-- Kind and message in one. -/
def text (r : Refusal) : String :=
  r.kind ++ ": " ++ r.message

/-- The temperatures that would have been in range. -/
def validRange? : Refusal → Option Json
  | .temperatureOutOfRange _ lowest highest unit =>
    some (.object [
      ("minimumValue", Temperature.toJson ⟨lowest, unit.scale⟩),
      ("maximumValue", Temperature.toJson ⟨highest, unit.scale⟩)])
  | _ => none

/-- The payload of the answer that carries a refusal. -/
def payload (r : Refusal) : Dict Json :=
  let told : Dict Json := Dict.ofEntries [("type", .str r.kind), ("message", .str r.message)]
  match r.validRange? with
  | some range => told.insert "validRange" range
  | none => told

/-! ## The refusals that directives meet -/

/-- The payload lacks a field. -/
def missingField (key : String) : Refusal :=
  .invalidDirective ("missing payload field " ++ key)

/-- A field of the payload has no value of its type. -/
def invalidField (key : String) : Refusal :=
  .invalidDirective ("payload field " ++ key ++ " has an invalid value")

/-- The directive names no endpoint, but is about one. -/
def withoutEndpoint : Refusal :=
  .invalidDirective "directive has no endpoint"

/-- No interface of the entity accepts the directive. -/
def notAccepted (entity : EntityId) (k : DirectiveKind) : Refusal :=
  .invalidDirective (entity.text ++ " does not support " ++ k.qualifiedName)

/-- Devices of the domain have no percentage. -/
def withoutPercentage (domain : Domain) : Refusal :=
  .invalidDirective (domain.name ++ " entities have no percentage")

/-- The entity can be activated only. -/
def notDeactivatable (entity : EntityId) : Refusal :=
  .invalidDirective (entity.text ++ " cannot be deactivated")

/-- The payload has no setpoint at all. -/
def withoutSetpoint : Refusal :=
  .invalidDirective "no setpoint in payload"

/-- The mode is an object that names no mode. -/
def modeWithoutValue : Refusal :=
  .invalidDirective "thermostatMode has no value"

/-- The mode is neither text nor an object. -/
def modeNotText : Refusal :=
  .invalidDirective "thermostatMode must be a string"

/-- The player has no input of the name asked for. -/
def unknownInput (input : String) : Refusal :=
  .invalidValue ("unknown input " ++ input)

/-- A value in percent is not between 0 and 100. -/
def percentOutside (name : String) (value : Int64) : Refusal :=
  .valueOutOfRange (name ++ " " ++ toString value.toInt ++ " is outside 0..=100")

/-- A value cannot be converted. -/
def outOfRange (e : RangeError) : Refusal :=
  .valueOutOfRange e.message

/-- An attribute that the directive needs cannot be used. -/
def unusable (entity : EntityId) (fault : AttributeFault) : Refusal :=
  .internal (.attribute entity fault)

end Refusal

end HomeVoice
