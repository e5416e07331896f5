import HomeVoice.Binary64.Basic

/-!
# Percentages

The assistant speaks of brightness, positions and volume in percent. The hub has brightness from 0
to 255 and volume as a level from 0 to 1.
-/

namespace HomeVoice.Percent

/-- The nearest percentage of an integer. -/
def clamp (n : Int) : Int64 :=
  .ofInt (max 0 (min 100 n))

/-- A percentage after a change. The sum is kept within 64 bits and brought back between 0 and
100. -/
def shift (percent delta : Int64) : Int64 :=
  clamp (Int64.ofIntClamp (percent.toInt + delta.toInt)).toInt

/-- A brightness of the hub as a percentage. -/
def ofBrightness (brightness : Binary64) : Int64 :=
  clamp (brightness / 255 * 100).roundToInt64.toInt

/-- A percentage as a brightness of the hub. -/
def toBrightness (percent : Int64) : Int64 :=
  (Binary64.ofInt64 (clamp percent.toInt) * 255 / 100).roundToInt64

/-- The percentage of a brightness after a change. -/
def adjustBrightness (brightness : Binary64) (delta : Int64) : Int64 :=
  shift (ofBrightness brightness) delta

/-- A percentage as a volume level. -/
def toVolumeLevel (percent : Int64) : Binary64 :=
  Binary64.ofInt64 (clamp percent.toInt) / 100

/-- A volume level as a percentage. -/
def ofVolumeLevel (level : Binary64) : Int64 :=
  clamp (level * 100).roundToInt64.toInt

/-- A volume level after a change in percent. -/
def adjustVolumeLevel (level : Binary64) (delta : Int64) : Binary64 :=
  toVolumeLevel (.ofIntClamp ((ofVolumeLevel level).toInt + delta.toInt))

end HomeVoice.Percent
