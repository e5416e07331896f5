import HomeVoice.Proofs.Control.Effect

/-!
# Sound entities

What the attributes of an entity and its state must be for it to make sense as a device of its
domain. Some of them are coupled: the position of a cover with its state, the bounds of a thermostat
with each other and its mode with its state. Control leaves sound entities sound.
-/

namespace HomeVoice

/-- The attribute is missing, or its value is as asked for. -/
def Attributes.MissingOr (a : Attributes) (key : String) (fits : AttributeValue → Prop) : Prop :=
  ∀ value, a.get? key = some value → fits value

namespace Entity

/-- A light has a byte as its brightness and a positive color temperature. -/
structure SoundLight (e : Entity) : Prop where
  brightness : e.attributes.MissingOr Key.brightness fun value =>
    ∃ n : Int64, value = .int n ∧ 0 ≤ n ∧ n ≤ 255
  colorTemperature : e.attributes.MissingOr Key.colorTemperature fun value =>
    ∃ n : Int64, value = .int n ∧ 1 ≤ n

/-- The position of a cover is a percentage, and the state says whether it is open. -/
def SoundCover (e : Entity) : Prop :=
  e.attributes.MissingOr Key.currentPosition fun value =>
    ∃ n : Int64, value = .int n ∧ 0 ≤ n ∧ n ≤ 100 ∧
      (e.state = "open" ↔ 0 < n) ∧ (e.state = "closed" ↔ n = 0)

/-- The speed of a fan is off or one in its table. -/
def SoundFan (e : Entity) : Prop :=
  e.attributes.MissingOr Key.speed fun value =>
    ∃ speed, value = .text speed ∧ (speed = SpeedTable.off ∨ speed ∈ e.speedTable.speeds)

/-- The setpoints of a thermostat are between its bounds and in order, and its mode is one that it
lists and is its state. -/
structure SoundClimate (unit : TemperatureUnit) (e : Entity) : Prop where
  setpoints : ∀ p, e.attributes.MissingOr (Control.Setpoint.key p) fun value =>
    ∃ x, value.asNumber? = some x ∧ (Control.SetpointRange.ofEntity e unit).Contains x
  ordered : ∀ low high, e.attributes.number? Key.targetTempLow = some low →
    e.attributes.number? Key.targetTempHigh = some high → low ≤ high
  mode : e.attributes.MissingOr Key.operationMode fun value =>
    ∃ mode modes, value.asText? = some mode ∧
      e.attributes.texts? Key.operationList = some modes ∧ mode ∈ modes ∧ e.state = mode

/-- The volume of a player is neither below 0 nor above 1. -/
def SoundPlayer (e : Entity) : Prop :=
  e.attributes.MissingOr Key.volumeLevel fun value =>
    ∃ x, value.asNumber? = some x ∧ ¬x < 0 ∧ ¬1 < x

/-- The entity makes sense as a device of its domain. -/
def Sound (unit : TemperatureUnit) (e : Entity) : Prop :=
  match e.domain with
  | .light => e.SoundLight
  | .cover => e.SoundCover
  | .fan => e.SoundFan
  | .climate => e.SoundClimate unit
  | .mediaPlayer => e.SoundPlayer
  | _ => True

variable {e : Entity} {unit : TemperatureUnit}

theorem sound_iff_of_light (light : e.domain = .light) : e.Sound unit ↔ e.SoundLight := by
  unfold Sound
  rw [light]

theorem sound_iff_of_cover (cover : e.domain = .cover) : e.Sound unit ↔ e.SoundCover := by
  unfold Sound
  rw [cover]

theorem sound_iff_of_fan (fan : e.domain = .fan) : e.Sound unit ↔ e.SoundFan := by
  unfold Sound
  rw [fan]

theorem sound_iff_of_climate (climate : e.domain = .climate) :
    e.Sound unit ↔ e.SoundClimate unit := by
  unfold Sound
  rw [climate]

theorem sound_iff_of_mediaPlayer (player : e.domain = .mediaPlayer) :
    e.Sound unit ↔ e.SoundPlayer := by
  unfold Sound
  rw [player]

/-- When an entity was changed last does not matter. -/
theorem Sound.touched (sound : e.Sound unit) (now : Timestamp) :
    Sound unit { e with lastUpdated := now } := by
  have domain : ({ e with lastUpdated := now } : Entity).domain = e.domain := rfl
  unfold Sound at sound ⊢
  rw [domain]
  split at sound
  · exact ⟨sound.brightness, sound.colorTemperature⟩
  · exact sound
  · exact sound
  · exact ⟨sound.setpoints, sound.ordered, sound.mode⟩
  · exact sound
  · trivial

end Entity

namespace Attributes.MissingOr

variable {e : Entity} {key other : String} {value : AttributeValue}
  {fits : AttributeValue → Prop}

theorem withAttribute_self (fit : fits value) :
    (e.withAttribute key value).attributes.MissingOr key fits := by
  intro value' found
  rw [Entity.get?_withAttribute_self] at found
  cases found
  exact fit

theorem withAttribute_of_ne (different : key ≠ other) (kept : e.attributes.MissingOr key fits) :
    (e.withAttribute other value).attributes.MissingOr key fits := by
  intro value' found
  rw [Entity.get?_withAttribute_of_ne e different] at found
  exact kept value' found

end Attributes.MissingOr

namespace Control

open Attributes.MissingOr

variable {e e' : Entity} {unit : TemperatureUnit} {readings : List Reading}

/-- The state matters only to covers and thermostats. -/
theorem sound_withState (sound : e.Sound unit) (notCover : e.domain ≠ .cover)
    (notClimate : e.domain ≠ .climate) (state : String) : (e.withState state).Sound unit := by
  have domain : (e.withState state).domain = e.domain := rfl
  unfold Entity.Sound at sound ⊢
  rw [domain]
  split at sound
  · exact ⟨sound.brightness, sound.colorTemperature⟩
  · next cover => exact absurd cover notCover
  · exact sound
  · next climate => exact absurd climate notClimate
  · exact sound
  · trivial

theorem sound_withVolume (player : e.domain = .mediaPlayer) (level : Binary64) :
    (e.withVolume level).Sound unit := by
  have domain : (e.withVolume level).domain = .mediaPlayer := player
  rw [Entity.sound_iff_of_mediaPlayer domain]
  refine withAttribute_self ⟨level.clamp 0 1, rfl, ?_⟩
  exact Binary64.clamp_within (by decide +kernel)

theorem sound_of_position {state : String} {n : Int64} (cover : e.domain = .cover)
    (percentage : Percent.IsPercentage n) (isOpen : state = "open" ↔ 0 < n)
    (isClosed : state = "closed" ↔ n = 0) :
    ((e.withState state).withAttribute Key.currentPosition (.int n)).Sound unit := by
  have domain : ((e.withState state).withAttribute Key.currentPosition (.int n)).domain = .cover :=
    cover
  rw [Entity.sound_iff_of_cover domain]
  exact withAttribute_self ⟨n, rfl, percentage.1, percentage.2, isOpen, isClosed⟩

/-- Setpoints that are allowed keep a thermostat sound. -/
theorem sound_withSetpoints {target : Option Binary64} {pair : Option (Binary64 × Binary64)}
    (sound : e.SoundClimate unit) (allowed : (SetpointRange.ofEntity e unit).Allows target pair)
    (finite : ∀ p value, Setpoint.given target pair p = some value → value.isFinite = true)
    (same : e.SameDevice (e.withSetpoints (setpointData (setpointsOf target pair)))) :
    (e.withSetpoints (setpointData (setpointsOf target pair))).SoundClimate unit := by
  have get? := get?_withSetpoints (e := e) finite
  constructor
  · intro p value found
    rw [get? p] at found
    rw [same.setpointRange]
    cases given : p.given target pair with
    | none =>
      rw [given] at found
      exact sound.setpoints p value found
    | some x =>
      rw [given] at found
      cases found
      exact ⟨x, rfl, allowed.contains p x given⟩
  · intro low high hlow hhigh
    unfold Attributes.number? at hlow hhigh
    rw [show Key.targetTempLow = Setpoint.lower.key from rfl, get? .lower] at hlow
    rw [show Key.targetTempHigh = Setpoint.upper.key from rfl, get? .upper] at hhigh
    cases pair with
    | none => exact sound.ordered low high hlow hhigh
    | some bounds =>
      cases hlow
      cases hhigh
      exact allowed.ordered _ _ rfl
  · have other : ∀ p, Key.operationMode ≠ Setpoint.key p := by
      intro p
      cases p <;> decide
    intro value found
    rw [get?_withSetpoints_of_ne _ other] at found
    rw [same.texts? (by decide), state_withSetpoints]
    exact sound.mode value found

/-- Control leaves sound entities sound. -/
theorem Effect.sound (effect : Effect e unit readings e') (same : e.SameDevice e')
    (sound : e.Sound unit) : e'.Sound unit := by
  cases effect with
  | kept => exact sound
  | on notCover notClimate | off notCover notClimate =>
    exact sound_withState sound notCover notClimate _
  | restated plain =>
    refine sound_withState sound ?_ ?_ _
    all_goals rcases plain with domain | domain <;> simp [domain]
  | locked lock | unlocked lock =>
    refine sound_withState sound ?_ ?_ _
    all_goals simp [lock]
  | opened cover | closed cover =>
    exact sound_of_position cover ⟨by decide, by decide⟩ (by decide) (by decide)
  | moved cover percentage =>
    exact sound_of_position cover percentage (by grind) (by grind [Percent.IsPercentage])
  | @dimmed percent light =>
    have before := (Entity.sound_iff_of_light light).1 sound
    refine (Entity.sound_iff_of_light (same.domain.trans light)).2 ⟨?_, ?_⟩
    · exact withAttribute_self ⟨_, rfl, Percent.toBrightness_within percent⟩
    · exact withAttribute_of_ne (by decide) before.colorTemperature
  | colored light =>
    have before := (Entity.sound_iff_of_light light).1 sound
    refine (Entity.sound_iff_of_light (same.domain.trans light)).2 ⟨?_, ?_⟩
    · exact withAttribute_of_ne (by decide) before.brightness
    · exact withAttribute_of_ne (by decide) before.colorTemperature
  | whitened light back =>
    have before := (Entity.sound_iff_of_light light).1 sound
    refine (Entity.sound_iff_of_light (same.domain.trans light)).2 ⟨?_, ?_⟩
    · exact withAttribute_of_ne (by decide) before.brightness
    · have positive := Color.pos_of_miredToKelvin back
      refine withAttribute_self ⟨_, rfl, ?_⟩
      rw [Int64.lt_iff_toInt_lt] at positive
      exact Int64.le_iff_toInt_le.2 positive
  | @sped percentage fan =>
    refine (Entity.sound_iff_of_fan (same.domain.trans fan)).2 ?_
    refine withAttribute_self ⟨_, rfl, ?_⟩
    rw [same.speedTable]
    exact e.speedTable.knows_speedFor percentage
  | heated climate allowed finite =>
    have before := (Entity.sound_iff_of_climate climate).1 sound
    refine (Entity.sound_iff_of_climate (same.domain.trans climate)).2 ?_
    exact sound_withSetpoints before allowed finite same
  | moded climate reported listed member =>
    have before := (Entity.sound_iff_of_climate climate).1 sound
    refine (Entity.sound_iff_of_climate (same.domain.trans climate)).2 ⟨?_, ?_, ?_⟩
    · intro p
      rw [same.setpointRange]
      exact withAttribute_of_ne (by cases p <;> decide) (before.setpoints p)
    · intro low high hlow hhigh
      rw [Attributes.number?, Entity.get?_withAttribute_of_ne _ (by decide)] at hlow hhigh
      exact before.ordered low high hlow hhigh
    · rw [same.texts? (by decide)]
      exact withAttribute_self ⟨_, _, rfl, listed, member, rfl⟩
  | loud player | stepped player => exact sound_withVolume player _
  | muted player | selected player =>
    have before := (Entity.sound_iff_of_mediaPlayer player).1 sound
    refine (Entity.sound_iff_of_mediaPlayer (same.domain.trans player)).2 ?_
    exact withAttribute_of_ne (by decide) before

end Control

end HomeVoice
