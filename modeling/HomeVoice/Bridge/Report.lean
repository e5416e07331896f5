import HomeVoice.Bridge.ThermostatMode
import HomeVoice.Entity.Key
import HomeVoice.Measure.Color
import HomeVoice.Measure.SpeedTable
import HomeVoice.Measure.Temperature
import HomeVoice.Protocol.Endpoint
import HomeVoice.Protocol.Reading

/-!
# Reports

The current value of each property of an entity. A property has no value where the entity does not
say enough: a sensor whose state is no number, a light without a color temperature.
-/

namespace HomeVoice.Entity

/-- The speeds of a fan. -/
def speedTable (e : Entity) : SpeedTable :=
  match e.attributes.texts? Key.speedList with
  | some speeds => .ofSpeeds speeds
  | none => .standard

/-- The percentage of the speed of a fan; zero when its speed is not in its table. -/
def speedPercentage (e : Entity) : Int64 :=
  ((e.attributes.text? Key.speed).bind e.speedTable.percentageOf?).getD 0

/-- The position of a cover. -/
def position? (e : Entity) : Option Int64 :=
  match e.attributes.int? Key.currentPosition with
  | some n => some n
  | none => e.attributes.int? Key.position

/-- The percentage of a cover or a fan. -/
def percentage? (e : Entity) : Option Int64 :=
  match e.domain with
  | .cover => e.position?
  | .fan => some e.speedPercentage
  | _ => none

/-- The brightness of a light in percent; one that says nothing is dark. -/
def brightnessPercentage (e : Entity) : Int64 :=
  Percent.ofBrightness ((e.attributes.number? Key.brightness).getD 0)

/-- A setpoint of a thermostat. -/
def setpoint? (e : Entity) (key : String) (unit : TemperatureUnit) : Option Temperature :=
  (e.attributes.number? key).map fun value => ⟨value, unit.scale⟩

/-- The temperature that a thermostat or a sensor measures. A sensor names its unit itself. -/
def temperature? (e : Entity) (unit : TemperatureUnit) : Option Temperature :=
  match e.domain with
  | .climate => e.setpoint? Key.currentTemperature unit
  | _ => do
    let unit ← (e.attributes.text? Key.unitOfMeasurement).bind TemperatureUnit.ofSymbol?
    let value ← Text.readNumber? (Text.trim e.state.toList)
    return ⟨value, unit.scale⟩

/-- The value of a property of an interface. -/
def read? (e : Entity) (i : Interface) (name : String) (unit : TemperatureUnit) : Option Json :=
  match i, name with
  | .power, "powerState" => some (.str (PowerState.ofState e.state).name)
  | .brightness, "brightness" => some (.ofInt64 e.brightnessPercentage)
  | .colorTemperature, "colorTemperatureInKelvin" => do
    let mired ← e.attributes.number? Key.colorTemperature
    let kelvin ← (Color.miredToKelvin mired).toOption
    return .ofInt64 kelvin
  | .percentage, "percentage" => e.percentage?.map .ofInt64
  | .thermostat, "thermostatMode" =>
    ((e.attributes.text? Key.operationMode).bind ThermostatMode.reported?).map .str
  | .thermostat, "targetSetpoint" => (e.setpoint? Key.temperature unit).map Temperature.toJson
  | .thermostat, "lowerSetpoint" => (e.setpoint? Key.targetTempLow unit).map Temperature.toJson
  | .thermostat, "upperSetpoint" => (e.setpoint? Key.targetTempHigh unit).map Temperature.toJson
  | .temperatureSensor, "temperature" => (e.temperature? unit).map Temperature.toJson
  | .lock, "lockState" => some (.str (LockState.ofState e.state).name)
  | .speaker, "volume" =>
    (e.attributes.number? Key.volumeLevel).map fun level => .ofInt64 (Percent.ofVolumeLevel level)
  | .speaker, "muted" => some (.bool (e.attributes.flag Key.volumeMuted))
  | _, _ => none

/-- The readings of the properties that a capability supports. -/
def readings (e : Entity) (unit : TemperatureUnit) (c : Capability) : List Reading :=
  c.supported.filterMap fun name =>
    (e.read? c.interface name unit).map fun value => ⟨c.interface, name, value⟩

/-- The readings that are given when asked for. -/
def retrievable (e : Entity) (unit : TemperatureUnit) (endpoint : Endpoint) : List Reading :=
  (endpoint.capabilities.filter fun c => c.interface.spec.retrievable).flatMap (e.readings unit)

/-- The readings that are given with every answer. -/
def proactive (e : Entity) (unit : TemperatureUnit) (endpoint : Endpoint) : List Reading :=
  (endpoint.capabilities.filter fun c => c.interface.spec.proactive).flatMap (e.readings unit)

end HomeVoice.Entity
