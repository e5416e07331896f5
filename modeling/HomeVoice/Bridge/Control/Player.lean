import HomeVoice.Bridge.Control.Basic
import HomeVoice.Text.LetterCase

/-!
# Media players

Volume in percent or in steps, muting, playback and the choice of an input. An input is asked for
in words, and the first source whose name is part of them is chosen; letter case does not count in
this, and hyphens and underscores in names read as spaces.
-/

namespace HomeVoice.Control

/-- Sets a volume level. -/
def volumeOutcome (s : Situation) (level : Binary64) : Outcome :=
  (Outcome.respond ((s.call "volume_set").withData Key.volumeLevel (.ofNumber level))).withReading
    .speaker "volume" (.ofInt64 (Percent.ofVolumeLevel level))

/-- Sets the volume to the percentage asked for. -/
def setVolume (s : Situation) : Except Refusal Outcome :=
  (s.percentArgument "volume").map fun percent => volumeOutcome s (Percent.toVolumeLevel percent)

/-- Changes the volume by the percentage asked for. -/
def adjustVolume (s : Situation) : Except Refusal Outcome := do
  let delta ← s.payload.requireInt "volume"
  let level ← s.needs (s.entity.attributes.requireNumber Key.volumeLevel)
  return volumeOutcome s (Percent.adjustVolumeLevel level delta)

/-- The call that mutes or unmutes. -/
def muteCall (s : Situation) (mute : Bool) : ServiceCall :=
  (s.call "volume_mute").withData Key.volumeMuted (.bool mute)

/-- Mutes or unmutes a player that reports its volume. -/
def setMute (s : Situation) : Except Refusal Outcome :=
  (s.payload.requireBool "mute").map fun mute =>
    (Outcome.respond (muteCall s mute)).withReading .speaker "muted" (.bool mute)

/-- Mutes or unmutes a player that does not. -/
def stepSetMute (s : Situation) : Except Refusal Outcome :=
  (s.payload.requireBool "mute").map fun mute => .respond (muteCall s mute)

/-- Moves the volume one step up or down; no steps are nothing to do. -/
def stepAdjustVolume (s : Situation) : Except Refusal Outcome :=
  (s.payload.requireInt "volumeSteps").map fun steps =>
    if steps = 0 then .idle
    else if 0 < steps then .respond (s.call "volume_up")
    else .respond (s.call "volume_down")

/-- Calls a service of playback. -/
def playback (service : String) (s : Situation) : Except Refusal Outcome :=
  .ok (.respond (s.call service))

/-- The name of a source as it is spoken. -/
def spokenSource (source : String) : List Char :=
  (Text.lowercase source).toList.map fun c => if c = '-' || c = '_' then ' ' else c

/-- Whether `part` stands somewhere in a text. -/
def occursIn (part : List Char) : List Char → Bool
  | [] => part.isEmpty
  | c :: rest => part.isPrefixOf (c :: rest) || occursIn part rest

/-- The first source whose name is part of what was asked for. -/
def chooseSource? (sources : List String) (requested : String) : Option String :=
  let words := (Text.lowercase requested).toList
  sources.find? fun source => occursIn (spokenSource source) words

/-- Selects the source asked for. -/
def selectInput (s : Situation) : Except Refusal Outcome := do
  let requested ← s.payload.requireText "input"
  let sources ← match s.entity.attributes.texts? Key.sourceList with
    | some sources => .ok sources
    | none => .error (.unusable s.entity.id (.missing Key.sourceList))
  match chooseSource? sources requested with
  | some source => return .respond ((s.call "select_source").withData Key.source (.str source))
  | none => throw (.unknownInput requested)

end HomeVoice.Control
