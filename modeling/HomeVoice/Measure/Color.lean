import HomeVoice.Measure.Range

/-!
# Colors

The hub has the color temperature of white light in mireds, millions over kelvins, and colors as
red, green and blue channels. The assistant names colors by hue, saturation and brightness.
-/

namespace HomeVoice

/-- A color by its three channels. -/
structure RgbColor where
  red : UInt8
  green : UInt8
  blue : UInt8
  deriving DecidableEq

namespace Color

/-- A color temperature in mireds, from kelvins. -/
def kelvinToMired (kelvin : Int64) : Except RangeError Int64 :=
  if kelvin ≤ 0 then .error (.zero "colorTemperatureInKelvin")
  else .ok ((1000000 : Binary64) / .ofInt64 kelvin).roundToInt64

/-- A color temperature in kelvins, from mireds. -/
def miredToKelvin (mired : Binary64) : Except RangeError Int64 :=
  if mired ≤ 0 then .error (.zero "color_temp")
  else .ok ((1000000 : Binary64) / mired).roundToInt64

/-- A part of full intensity as a channel. -/
def channel (x : Binary64) : UInt8 :=
  (x * 255).toByte

/-- The channels of a color whose hue is in degrees and whose saturation and brightness are parts
of one. The hue circle has six sectors; in each of them one channel is full, one is empty and the
third changes with the place in the sector. -/
def ofHsb (hue saturation brightness : Binary64) : Except RangeError RgbColor := do
  let hue ← RangeError.check "hue" hue 0 360
  let s ← RangeError.check "saturation" saturation 0 1
  let v ← RangeError.check "brightness" brightness 0 1
  if s.isZero then return ⟨channel v, channel v, channel v⟩
  let place := hue / 60
  let sector := place.floor
  let f := place - sector
  let p := v * (1 - s)
  let q := v * (1 - s * f)
  let t := v * (1 - s * (1 - f))
  let (r, g, b) :=
    match sector.toByte % 6 with
    | 0 => (v, t, p)
    | 1 => (q, v, p)
    | 2 => (p, v, t)
    | 3 => (p, q, v)
    | 4 => (t, p, v)
    | _ => (v, p, q)
  return ⟨channel r, channel g, channel b⟩

end Color

end HomeVoice
