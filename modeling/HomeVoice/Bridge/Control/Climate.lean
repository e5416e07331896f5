import HomeVoice.Bridge.Control.Basic

/-!
# Thermostats

A thermostat has a target, or a lower and an upper setpoint, or both, and every setpoint lies
between two bounds. All of them are in the unit of the hub.
-/

namespace HomeVoice.Control

/-- A setpoint of a thermostat. -/
inductive Setpoint where
  | target
  | lower
  | upper
  deriving DecidableEq

namespace Setpoint

/-- The attribute that holds a setpoint. -/
def key : Setpoint → String
  | .target => Key.temperature
  | .lower => Key.targetTempLow
  | .upper => Key.targetTempHigh

/-- The property that reports a setpoint, and the field that asks for it. -/
def property : Setpoint → String
  | .target => "targetSetpoint"
  | .lower => "lowerSetpoint"
  | .upper => "upperSetpoint"

end Setpoint

/-- The bounds of the setpoints. -/
structure SetpointRange where
  lowest : Binary64
  highest : Binary64
  unit : TemperatureUnit

namespace SetpointRange

/-- The bounds that an entity names, with defaults for those that it does not. -/
def ofEntity (e : Entity) (unit : TemperatureUnit) : SetpointRange where
  lowest := (e.attributes.number? Key.minTemp).getD (unit.ofCelsius Temperature.defaultLowest)
  highest := (e.attributes.number? Key.maxTemp).getD (unit.ofCelsius Temperature.defaultHighest)
  unit := unit

/-- The refusal of a setpoint. -/
def outside (r : SetpointRange) (value : Binary64) : Refusal :=
  .temperatureOutOfRange value r.lowest r.highest r.unit

/-- A setpoint between the bounds. -/
def check (r : SetpointRange) (value : Binary64) : Except Refusal Binary64 :=
  if r.lowest ≤ value ∧ value ≤ r.highest then .ok value else .error (r.outside value)

end SetpointRange

/-- The target that a payload asks for. -/
def targetArgument (p : Payload) (range : SetpointRange) : Except Refusal (Option Binary64) := do
  match ← p.optionalTemperature Setpoint.target.property with
  | some t => return some (← range.check (t.toUnit range.unit))
  | none => return none

/-- The lower and the upper setpoint that a payload asks for: both in this order, or none. -/
def pairArgument (p : Payload) (range : SetpointRange) :
    Except Refusal (Option (Binary64 × Binary64)) := do
  let lower ← p.optionalTemperature Setpoint.lower.property
  let upper ← p.optionalTemperature Setpoint.upper.property
  match lower, upper with
  | some lower, some upper =>
    let low ← range.check (lower.toUnit range.unit)
    let high ← range.check (upper.toUnit range.unit)
    if high < low then throw (range.outside low)
    return some (low, high)
  | some t, none | none, some t => throw (range.outside (t.toUnit range.unit))
  | none, none => return none

/-- The outcome of setting setpoints. -/
def setpointOutcome (s : Situation) (setpoints : List (Setpoint × Binary64)) : Outcome :=
  let call := setpoints.foldl
    (fun (c : ServiceCall) (p, value) => c.withData p.key (.ofNumber value))
    (s.call "set_temperature")
  (Outcome.respond call).withReadings (setpoints.map fun (p, value) =>
    ⟨.thermostat, p.property, Temperature.toJson ⟨value, s.unit.scale⟩⟩)

/-- Sets the setpoints asked for, which must be some. -/
def setTargetTemperature (s : Situation) : Except Refusal Outcome := do
  let range := SetpointRange.ofEntity s.entity s.unit
  let target ← targetArgument s.payload range
  let pair ← pairArgument s.payload range
  let setpoints : List (Setpoint × Binary64) :=
    (target.map fun value => (Setpoint.target, value)).toList ++
      (match pair with
      | some (low, high) => [(.lower, low), (.upper, high)]
      | none => [])
  if setpoints.isEmpty then throw .withoutSetpoint
  return setpointOutcome s setpoints

/-- Changes the target by the difference asked for. -/
def adjustTargetTemperature (s : Situation) : Except Refusal Outcome := do
  let range := SetpointRange.ofEntity s.entity s.unit
  let delta ← s.payload.requireTemperature "targetSetpointDelta"
  let current ← s.needs (s.entity.attributes.requireNumber Key.temperature)
  let value ← range.check (current + delta.intervalToUnit s.unit)
  return setpointOutcome s [(.target, value)]

/-- The mode that a payload asks for, by itself or in an object. -/
def modeArgument (p : Payload) : Except Refusal String :=
  (p.require "thermostatMode").bind fun j =>
    match j with
    | .str mode => .ok mode
    | .obj fields =>
      match (Dict.get? fields "value").bind Json.str? with
      | some mode => .ok mode
      | none => .error .modeWithoutValue
    | _ => .error .modeNotText

/-- Sets the mode asked for, when the entity supports a mode that is reported as it. -/
def setThermostatMode (s : Situation) : Except Refusal Outcome := do
  let requested ← modeArgument s.payload
  let supported := (s.entity.attributes.texts? Key.operationList).getD []
  match ThermostatMode.choose? supported requested with
  | some mode =>
    return (Outcome.respond ((s.call "set_operation_mode").withData Key.operationMode
      (.str mode))).withReading .thermostat "thermostatMode" (.str requested)
  | none => throw (.unsupportedMode requested)

end HomeVoice.Control
