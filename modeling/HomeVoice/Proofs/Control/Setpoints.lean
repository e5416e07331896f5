import HomeVoice.Proofs.Control.Checked
import HomeVoice.Proofs.Control.Refused
import HomeVoice.Proofs.Entity.Id
import Mathlib.Data.List.Basic

/-!
# Setpoints that are accepted

A payload may ask for a target, for a lower and an upper setpoint, or for all three, each on a scale
of its own. `Acceptable` says which payloads a thermostat goes along with, without the order in
which they are looked at, and `Sets` and `RefusesSetpoints` what comes of them and of all others.
-/

namespace HomeVoice.Control

namespace Setpoint

/-- The setpoints in the order in which they are reported. -/
def all : List Setpoint := [.target, .lower, .upper]

/-- The payload has a field for a setpoint. -/
def Asked (p : Payload) (point : Setpoint) : Prop :=
  (p.get? point.property).isSome

variable {p : Payload} {point : Setpoint}

/-- A field that holds a temperature gives a value. -/
theorem isSome_wanted?_iff (unit : TemperatureUnit) (holds : p.HoldsTemperature point.property) :
    (point.wanted? p unit).isSome ↔ point.Asked p := by
  unfold Payload.HoldsTemperature at holds
  unfold wanted? Asked
  rw [Option.isSome_map]
  cases given : p.get? point.property with
  | none => rfl
  | some j => exact iff_of_true (holds j given) rfl

end Setpoint

/-- A thermostat goes along with a payload: every field for a setpoint holds a temperature, there is
a target or a pair of bounds and never half a pair, and the values are in range and the pair in
order, all in the unit of the hub. -/
structure Acceptable (s : Situation) : Prop where
  wellFormed : ∀ point : Setpoint, s.payload.HoldsTemperature point.property
  asked : Setpoint.target.Asked s.payload ∨
    Setpoint.lower.Asked s.payload ∧ Setpoint.upper.Asked s.payload
  paired : Setpoint.lower.Asked s.payload ↔ Setpoint.upper.Asked s.payload
  inRange : ∀ (point : Setpoint) value, point.wanted? s.payload s.unit = some value →
    (SetpointRange.ofEntity s.entity s.unit).Contains value
  ordered : ∀ low high, Setpoint.lower.wanted? s.payload s.unit = some low →
    Setpoint.upper.wanted? s.payload s.unit = some high → low ≤ high

/-- The outcome sets the setpoints that a payload asks for, and no others: by one call that has the
value of each under its key, and with a reading of each in the order target, lower, upper. -/
structure Sets (s : Situation) (o : Outcome) (c : ServiceCall) : Prop where
  called : o.call = some c
  domain : c.domain = "climate"
  service : c.service = "set_temperature"
  target : c.target = s.entity.id
  data : ∀ point : Setpoint,
    c.data.get? point.key = (point.wanted? s.payload s.unit).map .ofNumber
  given : ∀ point : Setpoint, (c.data.get? point.key).isSome ↔ point.Asked s.payload
  keys : ∀ entry ∈ c.data, ∃ point, entry.1 = Setpoint.key point
  readings : o.readings = Setpoint.all.filterMap fun point =>
    (point.wanted? s.payload s.unit).map fun value =>
      ⟨.thermostat, point.property, Temperature.toJson ⟨value, s.unit.scale⟩⟩

/-- The refusal says that the directive is invalid, or that a temperature is out of range, with the
bounds in the scale of the hub. -/
def RefusesSetpoints (s : Situation) (r : Refusal) : Prop :=
  let range := SetpointRange.ofEntity s.entity s.unit
  r.kind = "INVALID_DIRECTIVE" ∨
    r.kind = "TEMPERATURE_VALUE_OUT_OF_RANGE" ∧
      r.validRange? = some (.object [
        ("minimumValue", Temperature.toJson ⟨range.lowest, s.unit.scale⟩),
        ("maximumValue", Temperature.toJson ⟨range.highest, s.unit.scale⟩)])

variable {s : Situation} {o : Outcome} {target : Option Binary64}
  {pair : Option (Binary64 × Binary64)}

theorem setTargetTemperature_eq_ok_iff :
    setTargetTemperature s = .ok o ↔
      ∃ target pair, targetArgument s.payload (.ofEntity s.entity s.unit) = .ok target ∧
        pairArgument s.payload (.ofEntity s.entity s.unit) = .ok pair ∧
        setpointsOf target pair ≠ [] ∧ setpointOutcome s (setpointsOf target pair) = o := by
  constructor
  · intro h
    cases decided_of_ok (k := .setTargetTemperature) rfl h with
    | setTargetTemperature askedTarget askedPair some_asked =>
      exact ⟨_, _, askedTarget, askedPair, some_asked, rfl⟩
  · rintro ⟨target, pair, askedTarget, askedPair, some_asked, rfl⟩
    refine setTargetTemperature_of_arguments askedTarget askedPair ?_
    exact List.isEmpty_eq_false_iff.2 some_asked

/-- What the arguments are is what the payload wants of each setpoint. -/
theorem given_eq_wanted? {p : Payload} {range : SetpointRange}
    (askedTarget : targetArgument p range = .ok target)
    (askedPair : pairArgument p range = .ok pair) (point : Setpoint) :
    point.given target pair = point.wanted? p range.unit := by
  obtain ⟨-, wanted, -⟩ := targetArgument_eq_ok_iff.1 askedTarget
  obtain ⟨-, -, lower, upper, -⟩ := pairArgument_eq_ok_iff.1 askedPair
  cases point with
  | target => exact wanted.symm
  | lower => exact lower.symm
  | upper => exact upper.symm

theorem acceptable_of_arguments
    (askedTarget : targetArgument s.payload (.ofEntity s.entity s.unit) = .ok target)
    (askedPair : pairArgument s.payload (.ofEntity s.entity s.unit) = .ok pair)
    (some_asked : setpointsOf target pair ≠ []) : Acceptable s := by
  have allowed := SetpointRange.allows_of_arguments askedTarget askedPair
  have given := given_eq_wanted? askedTarget askedPair
  obtain ⟨holdsTarget, -⟩ := targetArgument_eq_ok_iff.1 askedTarget
  obtain ⟨holdsLower, holdsUpper, -⟩ := pairArgument_eq_ok_iff.1 askedPair
  have holds : ∀ point : Setpoint, s.payload.HoldsTemperature point.property := by
    intro point
    cases point with
    | target => exact holdsTarget
    | lower => exact holdsLower
    | upper => exact holdsUpper
  have asked (point : Setpoint) : (point.given target pair).isSome ↔ point.Asked s.payload :=
    (given point).symm ▸ Setpoint.isSome_wanted?_iff _ (holds point)
  refine ⟨holds, ?_, ?_, ?_, ?_⟩
  · rw [← asked, ← asked, ← asked]
    cases target <;> cases pair <;> simp [setpointsOf, Setpoint.given] at some_asked ⊢
  · rw [← asked, ← asked]
    cases pair <;> simp [Setpoint.given]
  · intro point value wanted
    exact allowed.contains point value ((given point).trans wanted)
  · intro low high lower upper
    refine allowed.ordered low high ?_
    have lower := (given .lower).trans lower
    have upper := (given .upper).trans upper
    cases pair with
    | none => cases lower
    | some bounds =>
      cases lower
      cases upper
      rfl

theorem exists_pair_of_isSome_iff {α : Type} {x y : Option α} (both : x.isSome ↔ y.isSome) :
    ∃ pair : Option (α × α), x = pair.map Prod.fst ∧ y = pair.map Prod.snd := by
  cases x with
  | none =>
    cases y with
    | none => exact ⟨none, rfl, rfl⟩
    | some b => cases both.2 rfl
  | some a =>
    cases y with
    | none => cases both.1 rfl
    | some b => exact ⟨some (a, b), rfl, rfl⟩

/-- A payload that a thermostat goes along with passes all checks. -/
theorem Acceptable.arguments (acceptable : Acceptable s) :
    ∃ target pair, targetArgument s.payload (.ofEntity s.entity s.unit) = .ok target ∧
      pairArgument s.payload (.ofEntity s.entity s.unit) = .ok pair ∧
      setpointsOf target pair ≠ [] := by
  obtain ⟨holds, asked, paired, inRange, ordered⟩ := acceptable
  have isSome (point : Setpoint) := Setpoint.isSome_wanted?_iff s.unit (holds point)
  rw [← isSome, ← isSome] at paired
  rw [← isSome, ← isSome, ← isSome] at asked
  obtain ⟨pair, lower, upper⟩ := exists_pair_of_isSome_iff paired
  refine ⟨Setpoint.target.wanted? s.payload s.unit, pair, ?_, ?_, ?_⟩
  · exact targetArgument_eq_ok_iff.2 ⟨holds .target, rfl, inRange .target⟩
  · refine pairArgument_eq_ok_iff.2 ⟨holds .lower, holds .upper, lower, upper, ?_⟩
    rintro low high rfl
    exact ⟨inRange .lower low lower, inRange .upper high upper, ordered low high lower upper⟩
  · intro empty
    rw [lower, upper] at asked
    cases pair with
    | none =>
      cases wanted : Setpoint.target.wanted? s.payload s.unit with
      | none => simp [wanted] at asked
      | some value => simp [wanted, setpointsOf] at empty
    | some bounds => simp [setpointsOf] at empty

/-! ## What comes of setpoints -/

theorem setpointsOf_eq_filterMap (target : Option Binary64) (pair : Option (Binary64 × Binary64)) :
    setpointsOf target pair =
      Setpoint.all.filterMap fun point =>
        (point.given target pair).map fun value => (point, value) := by
  cases target <;> cases pair <;> rfl

theorem sets_setpointOutcome (climate : s.entity.domain = .climate)
    (askedTarget : targetArgument s.payload (.ofEntity s.entity s.unit) = .ok target)
    (askedPair : pairArgument s.payload (.ofEntity s.entity s.unit) = .ok pair)
    (some_asked : setpointsOf target pair ≠ []) :
    Sets s (setpointOutcome s (setpointsOf target pair))
      { s.call "set_temperature" with data := setpointData (setpointsOf target pair) } := by
  have given := given_eq_wanted? askedTarget askedPair
  have holds := (acceptable_of_arguments askedTarget askedPair some_asked).wellFormed
  have data (point : Setpoint) : (setpointData (setpointsOf target pair)).get? point.key =
      (point.wanted? s.payload s.unit).map .ofNumber := by
    rw [get?_setpointData (nodup_setpointsOf _ _), lookup_setpointsOf, given]
    rfl
  constructor
  case called => exact setpointOutcome_call s _
  case domain => exact s.entity.id.domainName_eq.trans (congrArg Domain.name climate)
  case service => rfl
  case target => rfl
  case data => exact data
  case given =>
    intro point
    rw [← Setpoint.isSome_wanted?_iff s.unit (holds point), data, Option.isSome_map]
  case keys =>
    intro entry member
    obtain ⟨point, -, -, key, -⟩ := mem_setpointData member
    exact ⟨point, key⟩
  case readings =>
    show (setpointsOf target pair).map _ = _
    rw [setpointsOf_eq_filterMap, List.map_filterMap]
    refine List.filterMap_congr fun point _ => ?_
    rw [given, Option.map_map]
    rfl

theorem refusesSetpoints_of_refuses {r : Refusal}
    (refuses : (SetpointRange.ofEntity s.entity s.unit).Refuses r) : RefusesSetpoints s r := by
  rcases refuses with invalid | ⟨value, rfl⟩
  · cases r with
    | invalidDirective reason => exact .inl rfl
    | _ => cases invalid
  · exact .inr ⟨rfl, rfl⟩

/-- A thermostat sets the setpoints that a payload asks for exactly when it goes along with the
payload, and else refuses them. -/
theorem setTargetTemperature_cases (climate : s.entity.domain = .climate) :
    (Acceptable s ∧ ∃ o c, setTargetTemperature s = .ok o ∧ Sets s o c) ∨
      (¬Acceptable s ∧ ∃ r, setTargetTemperature s = .error r ∧ RefusesSetpoints s r) := by
  cases decided : setTargetTemperature s with
  | ok o =>
    obtain ⟨target, pair, askedTarget, askedPair, some_asked, rfl⟩ :=
      setTargetTemperature_eq_ok_iff.1 decided
    exact .inl ⟨acceptable_of_arguments askedTarget askedPair some_asked, _, _, rfl,
      sets_setpointOutcome climate askedTarget askedPair some_asked⟩
  | error r =>
    refine .inr ⟨?_, r, rfl, ?_⟩
    · intro acceptable
      obtain ⟨target, pair, askedTarget, askedPair, some_asked⟩ := acceptable.arguments
      have accepted := setTargetTemperature_eq_ok_iff.2
        ⟨target, pair, askedTarget, askedPair, some_asked, rfl⟩
      cases decided.symm.trans accepted
    · exact refusesSetpoints_of_refuses (failsWith_setTargetTemperature s r decided)

end HomeVoice.Control
