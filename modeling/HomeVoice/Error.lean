import HomeVoice.Json.Decode

/-!
# Errors of the hub

What can go wrong where the bridge meets the hub: a value that breaks a rule, a thing that does
not exist, or a collaborator that fails for reasons of its own.
-/

namespace HomeVoice

/-- A value that breaks a rule. -/
inductive ValidationError where
  | emptyEntityId
  | malformedEntityId (text : String)
  | unknownTemperatureUnit (text : String)
  deriving DecidableEq

/-- The text of a validation error. -/
def ValidationError.message : ValidationError → String
  | .emptyEntityId => "entity id must not be empty"
  | .malformedEntityId text =>
    "entity id " ++ Text.quoted text ++ " must have the form `domain.object_id`"
  | .unknownTemperatureUnit text => "unknown temperature unit " ++ Text.quoted text

/-- A failure of the hub. -/
inductive HubError where
  | validation (cause : ValidationError)
  | notFound (kind id : String)
  | collaborator (reason : String)
  deriving DecidableEq

namespace HubError

/-- The general text of a failure, without its cause. -/
def message : HubError → String
  | .validation _ => "validation error"
  | .notFound .. => "not found"
  | .collaborator _ => "collaborator error"

/-- The text of the cause of a failure. -/
def cause : HubError → String
  | .validation e => e.message
  | .notFound kind id => kind ++ " " ++ id ++ " not found"
  | .collaborator reason => reason

end HubError

end HomeVoice
