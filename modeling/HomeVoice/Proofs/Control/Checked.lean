import HomeVoice.Proofs.Control.Decided
import HomeVoice.Proofs.Measure.Percent

/-!
# What controls have checked

A control that goes on after reading an argument has checked it: percentages are between 0 and 100,
setpoints between the bounds of the thermostat, color temperatures above zero, and modes and sources
are those that the entity lists.
-/

namespace HomeVoice

/-- A percentage that the payload gives is one. -/
theorem Situation.isPercentage_of_percentArgument {s : Situation} {name : String} {n : Int64}
    (h : s.percentArgument name = .ok n) : Percent.IsPercentage n := by
  obtain ⟨asked, -, h⟩ := bind_eq_ok.1 h
  split at h
  · next bounds =>
    cases h
    exact bounds
  · cases h

/-- The payload has a temperature under a name, or nothing. -/
def Payload.HoldsTemperature (p : Payload) (key : String) : Prop :=
  ∀ j, p.get? key = some j → (temperature? j).isSome

/-- An optional temperature is read unless there is something else in its place. -/
theorem Payload.optionalTemperature_eq_ok_iff {p : Payload} {key : String}
    {asked : Option Temperature} :
    p.optionalTemperature key = .ok asked ↔
      p.HoldsTemperature key ∧ (p.get? key).bind temperature? = asked := by
  unfold optionalTemperature requireTemperature requireAs require HoldsTemperature
  cases p.get? key with
  | none => simp
  | some j =>
    rw [Option.bind_some]
    cases read : temperature? j <;> simp [read, Except.bind, Except.map]

/-- Only mireds above zero have kelvins. -/
theorem Color.pos_of_miredToKelvin {mireds kelvin : Int64}
    (h : miredToKelvin (.ofInt64 mireds) = .ok kelvin) : 0 < mireds := by
  unfold miredToKelvin at h
  split at h
  · cases h
  · next positive =>
    rw [Int64.lt_iff_toInt_lt]
    show 0 < mireds.toInt
    have : ¬mireds.toInt ≤ 0 := fun nonpos => positive (Binary64.ofInt_nonpos nonpos)
    omega

namespace ThermostatMode

/-- Each mode of the hub has one place in the table. -/
theorem reported?_of_mem {entry : String × String} (member : entry ∈ table) :
    reported? entry.1 = some entry.2 := by
  revert entry
  decide

/-- The mode that is chosen is supported, and is reported as the one asked for. -/
theorem of_choose?_eq_some {supported : List String} {requested mode : String}
    (h : choose? supported requested = some mode) :
    mode ∈ supported ∧ reported? mode = some requested := by
  obtain ⟨entry, found, rfl⟩ := Option.map_eq_some_iff.1 h
  have holds := List.find?_some found
  simp only [Bool.and_eq_true, decide_eq_true_eq, List.contains_iff_mem] at holds
  obtain ⟨rfl, listed⟩ := holds
  exact ⟨listed, reported?_of_mem (List.mem_of_find?_eq_some found)⟩

end ThermostatMode

namespace Control

theorem mem_of_chooseSource?_eq_some {sources : List String} {requested source : String}
    (h : chooseSource? sources requested = some source) : source ∈ sources :=
  List.mem_of_find?_eq_some h

/-- A mode is chosen only from a list that the entity has. -/
theorem listed_of_choose?_eq_some {listed? : Option (List String)} {requested mode : String}
    (chosen : ThermostatMode.choose? (listed?.getD []) requested = some mode) :
    ∃ modes, listed? = some modes ∧ mode ∈ modes := by
  have member := (ThermostatMode.of_choose?_eq_some chosen).1
  cases listed? with
  | none => cases member
  | some modes => exact ⟨modes, rfl, member⟩

/-! ## Setpoints -/

/-- The temperatures that a thermostat can be set to. -/
def SetpointRange.Contains (r : SetpointRange) (value : Binary64) : Prop :=
  r.lowest ≤ value ∧ value ≤ r.highest

variable {range : SetpointRange} {p : Payload}

theorem SetpointRange.check_eq_ok {value checked : Binary64} :
    range.check value = .ok checked ↔ range.Contains value ∧ value = checked := by
  unfold check Contains
  split <;> simp_all

/-- The setpoints that a thermostat allows: each of them is in range, and the lower one of a pair is
at most the upper one. -/
structure SetpointRange.Allows (range : SetpointRange) (target : Option Binary64)
    (pair : Option (Binary64 × Binary64)) : Prop where
  contains : ∀ p value, Setpoint.given target pair p = some value → range.Contains value
  ordered : ∀ low high, pair = some (low, high) → low ≤ high

/-- The value that a payload asks for as a setpoint, in the unit of the hub. -/
def Setpoint.wanted? (p : Payload) (unit : TemperatureUnit) (point : Setpoint) : Option Binary64 :=
  ((p.get? point.property).bind Payload.temperature?).map fun t => t.toUnit unit

theorem targetArgument_eq_ok_iff {target : Option Binary64} :
    targetArgument p range = .ok target ↔
      p.HoldsTemperature Setpoint.target.property ∧
        Setpoint.wanted? p range.unit .target = target ∧
        ∀ value, target = some value → range.Contains value := by
  constructor
  · intro h
    obtain ⟨asked, read, h⟩ := bind_eq_ok.1 h
    obtain ⟨holds, rfl⟩ := Payload.optionalTemperature_eq_ok_iff.1 read
    refine ⟨holds, ?_⟩
    unfold Setpoint.wanted?
    split at h
    · next t asked =>
      rw [asked]
      obtain ⟨checked, inRange, h⟩ := bind_eq_ok.1 h
      cases h
      obtain ⟨contains, rfl⟩ := SetpointRange.check_eq_ok.1 inRange
      refine ⟨rfl, ?_⟩
      rintro value ⟨⟩
      exact contains
    · next asked =>
      rw [asked]
      cases h
      exact ⟨rfl, fun value given => nomatch given⟩
  · rintro ⟨holds, rfl, contains⟩
    refine bind_eq_ok.2 ⟨_, Payload.optionalTemperature_eq_ok_iff.2 ⟨holds, rfl⟩, ?_⟩
    unfold Setpoint.wanted? at contains ⊢
    cases asked : (p.get? Setpoint.target.property).bind Payload.temperature? with
    | none => rfl
    | some t =>
      rw [asked] at contains
      exact bind_eq_ok.2 ⟨_, SetpointRange.check_eq_ok.2 ⟨contains _ rfl, rfl⟩, rfl⟩

/-- Both setpoints of a pair are asked for or none is, and they are in range and in order. -/
theorem pairArgument_eq_ok_iff {pair : Option (Binary64 × Binary64)} :
    pairArgument p range = .ok pair ↔
      p.HoldsTemperature Setpoint.lower.property ∧ p.HoldsTemperature Setpoint.upper.property ∧
        Setpoint.wanted? p range.unit .lower = pair.map Prod.fst ∧
        Setpoint.wanted? p range.unit .upper = pair.map Prod.snd ∧
        ∀ low high, pair = some (low, high) →
          range.Contains low ∧ range.Contains high ∧ low ≤ high := by
  unfold Setpoint.wanted?
  constructor
  · intro h
    obtain ⟨lower, readLower, h⟩ := bind_eq_ok.1 h
    obtain ⟨upper, readUpper, h⟩ := bind_eq_ok.1 h
    obtain ⟨holdsLower, askedLower⟩ := Payload.optionalTemperature_eq_ok_iff.1 readLower
    obtain ⟨holdsUpper, askedUpper⟩ := Payload.optionalTemperature_eq_ok_iff.1 readUpper
    rw [askedLower, askedUpper]
    refine ⟨holdsLower, holdsUpper, ?_⟩
    cases lower with
    | none =>
      cases upper with
      | none =>
        cases h
        exact ⟨rfl, rfl, fun low high given => nomatch given⟩
      | some t => cases h
    | some lower =>
      cases upper with
      | none => cases h
      | some upper =>
        obtain ⟨low, lowInRange, h⟩ := bind_eq_ok.1 h
        obtain ⟨high, highInRange, h⟩ := bind_eq_ok.1 h
        simp only at h
        split at h
        · cases h
        · next ordered =>
          cases h
          obtain ⟨hlow, rfl⟩ := SetpointRange.check_eq_ok.1 lowInRange
          obtain ⟨hhigh, rfl⟩ := SetpointRange.check_eq_ok.1 highInRange
          refine ⟨rfl, rfl, ?_⟩
          rintro low high ⟨⟩
          exact ⟨hlow, hhigh, Binary64.le_of_not_lt hlow.1 hhigh.1 ordered⟩
  · rintro ⟨holdsLower, holdsUpper, wantedLower, wantedUpper, checked⟩
    refine bind_eq_ok.2 ⟨_, Payload.optionalTemperature_eq_ok_iff.2 ⟨holdsLower, rfl⟩, ?_⟩
    refine bind_eq_ok.2 ⟨_, Payload.optionalTemperature_eq_ok_iff.2 ⟨holdsUpper, rfl⟩, ?_⟩
    cases pair with
    | none =>
      rw [Option.map_eq_none_iff.1 wantedLower, Option.map_eq_none_iff.1 wantedUpper]
      rfl
    | some pair =>
      obtain ⟨low, high⟩ := pair
      obtain ⟨hlow, hhigh, ordered⟩ := checked low high rfl
      obtain ⟨lower, askedLower, rfl⟩ := Option.map_eq_some_iff.1 wantedLower
      obtain ⟨upper, askedUpper, rfl⟩ := Option.map_eq_some_iff.1 wantedUpper
      rw [askedLower, askedUpper]
      refine bind_eq_ok.2 ⟨_, SetpointRange.check_eq_ok.2 ⟨hlow, rfl⟩, ?_⟩
      refine bind_eq_ok.2 ⟨_, SetpointRange.check_eq_ok.2 ⟨hhigh, rfl⟩, ?_⟩
      simp only
      rw [if_neg (Binary64.not_lt_of_le ordered)]
      rfl

/-- The setpoints that a payload asks for are allowed once they have been checked. -/
theorem SetpointRange.allows_of_arguments {target : Option Binary64}
    {pair : Option (Binary64 × Binary64)} (askedTarget : targetArgument p range = .ok target)
    (askedPair : pairArgument p range = .ok pair) : range.Allows target pair := by
  obtain ⟨-, -, inRange⟩ := targetArgument_eq_ok_iff.1 askedTarget
  obtain ⟨-, -, -, -, checked⟩ := pairArgument_eq_ok_iff.1 askedPair
  refine ⟨?_, fun low high given => (checked low high given).2.2⟩
  intro setpoint value given
  cases setpoint with
  | target => exact inRange value given
  | lower =>
    obtain ⟨⟨low, high⟩, asked, rfl⟩ := Option.map_eq_some_iff.1 given
    exact (checked low high asked).1
  | upper =>
    obtain ⟨⟨low, high⟩, asked, rfl⟩ := Option.map_eq_some_iff.1 given
    exact (checked low high asked).2.1

theorem setTargetTemperature_of_arguments {s : Situation} {target : Option Binary64}
    {pair : Option (Binary64 × Binary64)}
    (askedTarget : targetArgument s.payload (.ofEntity s.entity s.unit) = .ok target)
    (askedPair : pairArgument s.payload (.ofEntity s.entity s.unit) = .ok pair)
    (some_asked : (setpointsOf target pair).isEmpty = false) :
    setTargetTemperature s = .ok (setpointOutcome s (setpointsOf target pair)) := by
  refine bind_eq_ok.2 ⟨target, askedTarget, bind_eq_ok.2 ⟨pair, askedPair, ?_⟩⟩
  show (if (setpointsOf target pair).isEmpty then _ else _) = _
  rw [some_asked]
  rfl

/-- A target that is in range is allowed by itself. -/
theorem SetpointRange.allows_target {value : Binary64} (contains : range.Contains value) :
    range.Allows (some value) none := by
  refine ⟨?_, fun low high given => nomatch given⟩
  intro setpoint other given
  cases setpoint with
  | target =>
    cases given
    exact contains
  | lower | upper => cases given

end Control

end HomeVoice
