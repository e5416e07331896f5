import HomeVoice.Error

/-!
# Temperatures

The hub keeps temperatures in one unit, while the assistant may speak any of three scales. A
temperature and a difference of temperatures convert differently: only the first has an offset.
-/

namespace HomeVoice

/-- The unit in which the hub keeps temperatures. -/
inductive TemperatureUnit where
  | celsius
  | fahrenheit
  deriving DecidableEq

/-- A scale of the protocol. -/
inductive TemperatureScale where
  | celsius
  | fahrenheit
  | kelvin
  deriving DecidableEq

/-- The name of a scale in messages. -/
def TemperatureScale.name : TemperatureScale → String
  | .celsius => "CELSIUS"
  | .fahrenheit => "FAHRENHEIT"
  | .kelvin => "KELVIN"

/-- A scale in JSON. -/
def TemperatureScale.decode : Decoder TemperatureScale :=
  .oneOf .json [("CELSIUS", .celsius), ("FAHRENHEIT", .fahrenheit), ("KELVIN", .kelvin)]

namespace TemperatureUnit

/-- The symbol of a unit in attributes. -/
def symbol : TemperatureUnit → String
  | .celsius => "°C"
  | .fahrenheit => "°F"

/-- The unit with a given symbol. -/
def ofSymbol? (s : String) : Option TemperatureUnit :=
  [celsius, fahrenheit].find? fun u => u.symbol = s

/-- The scale that a unit belongs to. -/
def scale : TemperatureUnit → TemperatureScale
  | .celsius => .celsius
  | .fahrenheit => .fahrenheit

/-- The name of a unit in configurations. -/
def name : TemperatureUnit → String
  | .celsius => "celsius"
  | .fahrenheit => "fahrenheit"

/-- A temperature in degrees Celsius, in this unit. -/
def ofCelsius (unit : TemperatureUnit) (celsius : Binary64) : Binary64 :=
  match unit with
  | .celsius => celsius
  | .fahrenheit => celsius * 1.8 + 32

/-- The unit of a text: its name or initial in any letter case, or its symbol. -/
def parse (s : String) : Except ValidationError TemperatureUnit :=
  let lower : String := .ofList (s.toList.map Char.toLower)
  if lower = "celsius" || lower = "c" then .ok .celsius
  else if lower = "fahrenheit" || lower = "f" then .ok .fahrenheit
  else
    match ofSymbol? s with
    | some unit => .ok unit
    | none => .error (.unknownTemperatureUnit s)

/-- A unit in a data format. -/
def decode (format : DataFormat) : Decoder TemperatureUnit :=
  .oneOf format [("celsius", .celsius), ("fahrenheit", .fahrenheit)]

end TemperatureUnit

/-- A temperature, or a difference of temperatures, on a scale. -/
structure Temperature where
  value : Binary64
  scale : TemperatureScale
  deriving DecidableEq

namespace Temperature

/-- The lowest setpoint of a thermostat that names none, in degrees Celsius. -/
def defaultLowest : Binary64 := 7

/-- The highest setpoint of a thermostat that names none, in degrees Celsius. -/
def defaultHighest : Binary64 := 35

/-- The value of a temperature in degrees Celsius. -/
def toCelsius (t : Temperature) : Binary64 :=
  match t.scale with
  | .celsius => t.value
  | .fahrenheit => (t.value - 32) / 1.8
  | .kelvin => t.value - 273.15

/-- The value of a temperature in a unit. Degrees Fahrenheit that stay degrees Fahrenheit are not
converted. -/
def toUnit (t : Temperature) (unit : TemperatureUnit) : Binary64 :=
  match t.scale, unit with
  | .fahrenheit, .fahrenheit => t.value
  | _, _ => unit.ofCelsius t.toCelsius

/-- The value of a difference in a unit. -/
def intervalToUnit (t : Temperature) (unit : TemperatureUnit) : Binary64 :=
  match t.scale, unit with
  | .celsius, .celsius | .kelvin, .celsius | .fahrenheit, .fahrenheit => t.value
  | .celsius, .fahrenheit | .kelvin, .fahrenheit => t.value * 1.8
  | .fahrenheit, .celsius => t.value / 1.8

/-- A temperature as JSON. -/
def toJson (t : Temperature) : Json :=
  .object [("value", .ofNumber t.value), ("scale", .str t.scale.name)]

/-- A temperature in JSON. -/
def decode : Decoder Temperature :=
  Record.decode "Temperature"
    (Temperature.mk <$> .required "value" Decoder.number
      <*> .required "scale" TemperatureScale.decode)

end Temperature

end HomeVoice
