import HomeVoice.Proofs.Control.Checked
import HomeVoice.Proofs.Control.Decided
import HomeVoice.Proofs.Measure.SpeedTable

/-!
# What calls carry

Whatever a payload asks for and whatever the attributes of an entity are, a service call carries
data that the device can act on: every field that it has is in the range of that field, and the two
bounds of a thermostat come together and in order.
-/

namespace HomeVoice

namespace Control

/-- A field with a value that the entity can act on. -/
inductive FieldInRange (e : Entity) (range : SetpointRange) : String → Json → Prop
  | brightness {n : Int} (lowest : 0 ≤ n) (highest : n ≤ 100) :
      FieldInRange e range Key.brightnessPercent (.int n)
  | position {n : Int} (lowest : 0 ≤ n) (highest : n ≤ 100) :
      FieldInRange e range Key.position (.int n)
  | color {red green blue : Nat} (hr : red ≤ 255) (hg : green ≤ 255) (hb : blue ≤ 255) :
      FieldInRange e range Key.rgbColor (.arr [.int red, .int green, .int blue])
  | colorTemperature {n : Int} (positive : 1 ≤ n) :
      FieldInRange e range Key.colorTemperature (.int n)
  | speed {speed : String} (known : e.speedTable.Knows speed) :
      FieldInRange e range Key.speed (.str speed)
  | mode {mode : String} {modes : List String}
      (listed : e.attributes.texts? Key.operationList = some modes) (member : mode ∈ modes) :
      FieldInRange e range Key.operationMode (.str mode)
  | source {source : String} {sources : List String}
      (listed : e.attributes.texts? Key.sourceList = some sources) (member : source ∈ sources) :
      FieldInRange e range Key.source (.str source)
  | volume {k : Nat} (highest : k ≤ 100) :
      FieldInRange e range Key.volumeLevel (.float (Binary64.ofInt k / 100))
  | muted (muted : Bool) : FieldInRange e range Key.volumeMuted (.bool muted)
  | setpoint (p : Setpoint) {value : Binary64} (contains : range.Contains value) :
      FieldInRange e range p.key (.ofNumber value)

/-- Data that an entity can act on. -/
structure DataInRange (e : Entity) (range : SetpointRange) (data : Dict Json) : Prop where
  fields : ∀ key value, (key, value) ∈ data → FieldInRange e range key value
  bounds : (data.get? Key.targetTempLow = none ∧ data.get? Key.targetTempHigh = none) ∨
    ∃ low high, data.get? Key.targetTempLow = some (.ofNumber low) ∧
      data.get? Key.targetTempHigh = some (.ofNumber high) ∧ low ≤ high

namespace DataInRange

variable {e : Entity} {range : SetpointRange} {key : String} {value : Json}

theorem empty : DataInRange e range [] :=
  ⟨fun _ _ member => (List.not_mem_nil member).elim, .inl ⟨rfl, rfl⟩⟩

theorem single (inRange : FieldInRange e range key value) (notLow : key ≠ Key.targetTempLow)
    (notHigh : key ≠ Key.targetTempHigh) : DataInRange e range [(key, value)] := by
  refine ⟨?_, .inl ⟨if_neg notLow, if_neg notHigh⟩⟩
  intro key' value' member
  cases List.mem_singleton.1 member
  exact inRange

/-- Setpoints that are allowed are in range, and the two bounds come together. -/
theorem setpoints {target : Option Binary64} {pair : Option (Binary64 × Binary64)}
    (allowed : range.Allows target pair) :
    DataInRange e range (setpointData (setpointsOf target pair)) := by
  have get? (p : Setpoint) := get?_setpointData (nodup_setpointsOf target pair) p
  simp only [lookup_setpointsOf] at get?
  constructor
  · intro key value member
    obtain ⟨p, x, asked, rfl, rfl⟩ := mem_setpointData member
    exact .setpoint p (allowed.contains p x (mem_setpointsOf asked))
  · have low := get? .lower
    have high := get? .upper
    cases pair with
    | none => exact .inl ⟨low, high⟩
    | some bounds => exact .inr ⟨bounds.1, bounds.2, low, high, allowed.ordered _ _ rfl⟩

end DataInRange

namespace FieldInRange

variable {e : Entity} {range : SetpointRange}

theorem brightness_of_isPercentage {n : Int64} (h : Percent.IsPercentage n) :
    FieldInRange e range Key.brightnessPercent (.ofInt64 n) := by
  have bounds := Percent.isPercentage_iff.1 h
  exact .brightness bounds.1 bounds.2

theorem position_of_isPercentage {n : Int64} (h : Percent.IsPercentage n) :
    FieldInRange e range Key.position (.ofInt64 n) := by
  have bounds := Percent.isPercentage_iff.1 h
  exact .position bounds.1 bounds.2

theorem color_of_rgb (c : RgbColor) : FieldInRange e range Key.rgbColor (colorJson c) :=
  .color (Nat.le_of_lt_succ c.red.toNat_lt) (Nat.le_of_lt_succ c.green.toNat_lt)
    (Nat.le_of_lt_succ c.blue.toNat_lt)

theorem colorTemperature_of_pos {mireds : Int64} (h : 0 < mireds) :
    FieldInRange e range Key.colorTemperature (.ofInt64 mireds) := by
  have positive : 0 < mireds.toInt := Int64.lt_iff_toInt_lt.1 h
  exact .colorTemperature positive

theorem volume_toVolumeLevel (n : Int64) :
    FieldInRange e range Key.volumeLevel (.ofNumber (Percent.toVolumeLevel n)) := by
  obtain ⟨k, highest, hundredths⟩ := Percent.toVolumeLevel_eq_div n
  rw [Json.ofNumber, if_pos (Percent.isFinite_toVolumeLevel n), hundredths]
  exact .volume highest

end FieldInRange

variable {s : Situation} {k : DirectiveKind} {o : Outcome} {c : ServiceCall}

/-- A percentage is set as a position, or as a speed that the fan knows. -/
theorem dataInRange_of_percentageCall {range : SetpointRange} {n : Int64}
    (h : Percent.IsPercentage n) (made : percentageCall s n = .ok c) :
    DataInRange s.entity range c.data := by
  unfold percentageCall at made
  split at made
  · cases made
    exact .single (.position_of_isPercentage h) (by decide) (by decide)
  · cases made
    exact .single (.speed (SpeedTable.knows_speedFor _ _)) (by decide) (by decide)
  · cases made

theorem Decided.dataInRange (h : Decided s k o) (called : o.call = some c) :
    DataInRange s.entity (.ofEntity s.entity s.unit) c.data := by
  cases h with
  | turnOn | turnOff =>
    cases called
    rw [powerCall_data]
    exact .empty
  | setBrightness asked =>
    cases called
    have percentage := s.isPercentage_of_percentArgument asked
    exact .single (.brightness_of_isPercentage percentage) (by decide) (by decide)
  | adjustBrightness =>
    cases called
    have percentage := Percent.isPercentage_shift
    exact .single (.brightness_of_isPercentage (percentage _ _)) (by decide) (by decide)
  | @setColor _ _ _ _ rgb =>
    cases called
    exact .single (.color_of_rgb rgb) (by decide) (by decide)
  | setColorTemperature _ _ back | increaseColorTemperature _ _ back
  | decreaseColorTemperature _ _ back =>
    cases called
    have positive := Color.pos_of_miredToKelvin back
    exact .single (.colorTemperature_of_pos positive) (by decide) (by decide)
  | setPercentage asked made =>
    cases called
    exact dataInRange_of_percentageCall (s.isPercentage_of_percentArgument asked) made
  | adjustPercentage _ _ made =>
    cases called
    exact dataInRange_of_percentageCall (Percent.isPercentage_shift _ _) made
  | setTargetTemperature askedTarget askedPair =>
    rw [setpointOutcome_call] at called
    cases called
    exact .setpoints (SetpointRange.allows_of_arguments askedTarget askedPair)
  | adjustTargetTemperature _ _ inRange =>
    rw [setpointOutcome_call] at called
    cases called
    obtain ⟨contains, rfl⟩ := SetpointRange.check_eq_ok.1 inRange
    exact .setpoints (SetpointRange.allows_target contains)
  | setThermostatMode _ chosen =>
    cases called
    obtain ⟨modes, listed, member⟩ := listed_of_choose?_eq_some chosen
    exact .single (.mode listed member) (by decide) (by decide)
  | setVolume | adjustVolume =>
    cases called
    exact .single (.volume_toVolumeLevel _) (by decide) (by decide)
  | setMute | stepSetMute =>
    cases called
    exact .single (.muted _) (by decide) (by decide)
  | selectInput _ listed chosen =>
    cases called
    exact .single (.source listed (mem_of_chooseSource?_eq_some chosen)) (by decide) (by decide)
  | stepNone => cases called
  | lock | unlock | activate | deactivate | stepUp | stepDown | play | pause | stop | next
  | previous =>
    cases called
    exact .empty

/-- Every call that a control decides on carries data in range, for every entity, whether or not its
endpoint accepts the directive, and for every payload, whatever numbers and texts it has. -/
theorem dataInRange_of_ok {judge : Situation → Except Refusal Outcome}
    (route : k.route = .control judge) (decided : judge s = .ok o) (called : o.call = some c) :
    DataInRange s.entity (.ofEntity s.entity s.unit) c.data :=
  (decided_of_ok route decided).dataInRange called

end Control

/-- A thermostat that names one of its bounds as text. -/
def Entity.hallway : Entity :=
  ⟨⟨"climate", "hallway", by decide, by decide, by decide⟩, "auto",
    ⟨[(Key.maxTemp, .int 30), (Key.minTemp, .text " 15.5 ")]⟩, ⟨0, 0⟩⟩

/-- Asks for at least 68 °F and at most 298.15 K. -/
def Payload.mild : Payload :=
  ⟨[("lowerSetpoint", .object [("value", .int 68), ("scale", .str "FAHRENHEIT")]),
    ("upperSetpoint", .object [("value", .float 298.15), ("scale", .str "KELVIN")])]⟩

namespace Control

/-- The bounds that are asked for in two other scales are set in the unit of the hub. -/
theorem setTargetTemperature_hallway (now : Timestamp) :
    let s : Situation := ⟨.hallway, .mild, .celsius, now⟩
    setTargetTemperature s = .ok (setpointOutcome s (setpointsOf none (some (20, 25)))) := by
  have target : targetArgument .mild (.ofEntity .hallway .celsius) = .ok none := rfl
  have pair : pairArgument .mild (.ofEntity .hallway .celsius) = .ok (some (20, 25)) :=
    eq_ok_of_toOption (by decide +kernel)
  exact setTargetTemperature_of_arguments target pair rfl

theorem dataInRange_hallway :
    let s : Situation := ⟨.hallway, .mild, .celsius, ⟨0, 0⟩⟩
    let range : SetpointRange := .ofEntity s.entity s.unit
    ∃ o c, setTargetTemperature s = .ok o ∧ o.call = some c ∧
      range.lowest = 15.5 ∧ range.highest = 30 ∧
      c.data.get? Key.targetTempLow = some (.ofNumber 20) ∧
      c.data.get? Key.targetTempHigh = some (.ofNumber 25) ∧
      DataInRange s.entity range c.data := by
  intro s range
  have decided := setTargetTemperature_hallway ⟨0, 0⟩
  have called := setpointOutcome_call s (setpointsOf none (some (20, 25)))
  have get? := get?_setpointData (nodup_setpointsOf none (some (20, 25)))
  exact ⟨_, _, decided, called, by decide +kernel, by decide +kernel, get? .lower, get? .upper,
    dataInRange_of_ok (k := .setTargetTemperature) rfl decided called⟩

end Control

end HomeVoice
