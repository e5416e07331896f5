import HomeVoice.Bridge.Control.Basic

/-!
# Lights

Brightness in percent, colors by hue, saturation and brightness, and the color temperature of
white light, which can be set or moved by a step.
-/

namespace HomeVoice.Control

/-- Sets the brightness of a light. -/
def brightnessOutcome (s : Situation) (percent : Int64) : Outcome :=
  let call := (s.call "turn_on").withData Key.brightnessPercent (.ofInt64 percent)
  (Outcome.respond call).withReading .brightness "brightness" (.ofInt64 percent)

/-- Sets the brightness to the percentage asked for. -/
def setBrightness (s : Situation) : Except Refusal Outcome :=
  (s.percentArgument "brightness").map (brightnessOutcome s)

/-- Changes the brightness by the percentage asked for. A light that says nothing is dark. -/
def adjustBrightness (s : Situation) : Except Refusal Outcome :=
  (s.payload.requireInt "brightnessDelta").map fun delta =>
    let current := (s.entity.attributes.number? Key.brightness).getD 0
    brightnessOutcome s (Percent.adjustBrightness current delta)

/-- The channels of a color as JSON. -/
def colorJson (c : RgbColor) : Json :=
  .arr [.int c.red.toNat, .int c.green.toNat, .int c.blue.toNat]

/-- Sets the color. The color is reported as it was asked for. -/
def setColor (s : Situation) : Except Refusal Outcome := do
  let color ← s.payload.requireObject "color"
  let hue ← color.requireNumber "hue"
  let saturation ← color.requireNumber "saturation"
  let brightness ← color.requireNumber "brightness"
  let rgb ← (Color.ofHsb hue saturation brightness).mapError .outOfRange
  return (Outcome.respond ((s.call "turn_on").withData Key.rgbColor (colorJson rgb))).withReading
    .color "color" (.obj color.fields)

/-- The mireds by which one step moves the color temperature. -/
def miredStep : Int := 50

/-- Sets the color temperature, in mireds. -/
def colorTemperatureOutcome (s : Situation) (mireds : Int64) : Except Refusal Outcome :=
  ((Color.miredToKelvin (.ofInt64 mireds)).mapError .outOfRange).map fun kelvin =>
    let call := (s.call "turn_on").withData Key.colorTemperature (.ofInt64 mireds)
    (Outcome.respond call).withReading
      .colorTemperature "colorTemperatureInKelvin" (.ofInt64 kelvin)

/-- Sets the color temperature to the kelvins asked for. -/
def setColorTemperature (s : Situation) : Except Refusal Outcome := do
  let kelvin ← s.payload.requireInt "colorTemperatureInKelvin"
  let mireds ← (Color.kelvinToMired kelvin).mapError .outOfRange
  colorTemperatureOutcome s mireds

/-- Makes the light one step colder, down to its least mireds. -/
def increaseColorTemperature (s : Situation) : Except Refusal Outcome := do
  let current ← s.needs (s.entity.attributes.requireInt Key.colorTemperature)
  let least ← s.needs (s.entity.attributes.requireInt Key.minMireds)
  colorTemperatureOutcome s (max least (.ofIntClamp (current.toInt - miredStep)))

/-- Makes the light one step warmer, up to its greatest mireds. -/
def decreaseColorTemperature (s : Situation) : Except Refusal Outcome := do
  let current ← s.needs (s.entity.attributes.requireInt Key.colorTemperature)
  let greatest ← s.needs (s.entity.attributes.requireInt Key.maxMireds)
  colorTemperatureOutcome s (min greatest (.ofIntClamp (current.toInt + miredStep)))

end HomeVoice.Control
