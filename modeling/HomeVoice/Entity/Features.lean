/-!
# Supported features

Devices announce optional abilities as the bits of one integer. Each bit has a meaning in each
domain.
-/

namespace HomeVoice

/-- A set of features. -/
structure Features where
  bits : UInt64
  deriving DecidableEq

namespace Features

/-- No feature. -/
def none : Features := ⟨0⟩

/-- Whether there is no feature in the set. -/
def isEmpty (f : Features) : Bool :=
  f.bits = 0

/-- Whether every feature of `g` is in `f`. -/
def contains (f g : Features) : Bool :=
  f.bits &&& g.bits = g.bits

/-- Whether some feature of `g` is in `f`. -/
def intersects (f g : Features) : Bool :=
  f.bits &&& g.bits ≠ 0

/-- The features of both sets. -/
def union (f g : Features) : Features :=
  ⟨f.bits ||| g.bits⟩

/-! ## Lights -/

def lightBrightness : Features := ⟨1⟩
def lightColorTemperature : Features := ⟨2⟩
def lightEffect : Features := ⟨4⟩
def lightFlash : Features := ⟨8⟩
def lightColor : Features := ⟨16⟩
def lightTransition : Features := ⟨32⟩
def lightWhiteValue : Features := ⟨128⟩

/-! ## Thermostats -/

def climateTarget : Features := ⟨1⟩
def climateTargetHigh : Features := ⟨2⟩
def climateTargetLow : Features := ⟨4⟩
def climateHumidity : Features := ⟨8⟩
def climateFanMode : Features := ⟨64⟩
def climateOperationMode : Features := ⟨128⟩

/-! ## Covers -/

def coverOpen : Features := ⟨1⟩
def coverClose : Features := ⟨2⟩
def coverSetPosition : Features := ⟨4⟩
def coverStop : Features := ⟨8⟩

/-! ## Fans -/

def fanSetSpeed : Features := ⟨1⟩
def fanOscillate : Features := ⟨2⟩
def fanDirection : Features := ⟨4⟩

/-! ## Media players -/

def playerPause : Features := ⟨1⟩
def playerSeek : Features := ⟨2⟩
def playerVolumeSet : Features := ⟨4⟩
def playerVolumeMute : Features := ⟨8⟩
def playerPreviousTrack : Features := ⟨16⟩
def playerNextTrack : Features := ⟨32⟩
def playerTurnOn : Features := ⟨128⟩
def playerTurnOff : Features := ⟨256⟩
def playerPlayMedia : Features := ⟨512⟩
def playerVolumeStep : Features := ⟨1024⟩
def playerSelectSource : Features := ⟨2048⟩
def playerStop : Features := ⟨4096⟩
def playerClearPlaylist : Features := ⟨8192⟩
def playerPlay : Features := ⟨16384⟩

end Features

end HomeVoice
