import HomeVoice.Bridge.Control.Climate
import HomeVoice.Bridge.Control.Light
import HomeVoice.Bridge.Control.Percentage
import HomeVoice.Bridge.Control.Player
import HomeVoice.Bridge.Control.Switching

/-!
# The table of control

How each kind of directive is carried out: discovery and reports of state only read, all other
kinds control an entity.
-/

namespace HomeVoice

/-- How a directive is carried out. -/
inductive Route where
  | discover
  | reportState
  | control (decide : Situation → Except Refusal Outcome)

/-- How a kind of directive is carried out. -/
def DirectiveKind.route : DirectiveKind → Route
  | .discover => .discover
  | .reportState => .reportState
  | .turnOn => .control (Control.power .on)
  | .turnOff => .control (Control.power .off)
  | .setBrightness => .control Control.setBrightness
  | .adjustBrightness => .control Control.adjustBrightness
  | .setColor => .control Control.setColor
  | .setColorTemperature => .control Control.setColorTemperature
  | .increaseColorTemperature => .control Control.increaseColorTemperature
  | .decreaseColorTemperature => .control Control.decreaseColorTemperature
  | .setPercentage => .control Control.setPercentage
  | .adjustPercentage => .control Control.adjustPercentage
  | .setTargetTemperature => .control Control.setTargetTemperature
  | .adjustTargetTemperature => .control Control.adjustTargetTemperature
  | .setThermostatMode => .control Control.setThermostatMode
  | .lock => .control Control.lock
  | .unlock => .control Control.unlock
  | .activate => .control Control.activate
  | .deactivate => .control Control.deactivate
  | .setVolume => .control Control.setVolume
  | .adjustVolume => .control Control.adjustVolume
  | .setMute => .control Control.setMute
  | .stepAdjustVolume => .control Control.stepAdjustVolume
  | .stepSetMute => .control Control.stepSetMute
  | .play => .control (Control.playback "media_play")
  | .pause => .control (Control.playback "media_pause")
  | .stop => .control (Control.playback "media_stop")
  | .next => .control (Control.playback "media_next_track")
  | .previous => .control (Control.playback "media_previous_track")
  | .selectInput => .control Control.selectInput

end HomeVoice
