import HomeVoice.Proofs.Control.ReadBack
import HomeVoice.Proofs.Control.Refused

/-!
# Dials

The brightness of a light, the percentage of a cover or a fan and the volume of a player are numbers
from 0 to 100 that can be changed by a difference. Each of them is read twice, once when it is
reported and once when it is changed, in units of the hub and from attributes that may be missing.
A `Dial` is one of the three; `Dial.judge_of_value` and `Dial.lacks_of_value` say that it is changed
from what is reported, exactly, and not at all when nothing is reported.
-/

namespace HomeVoice

theorem Json.ofInt64_injective {m n : Int64} (same : ofInt64 m = ofInt64 n) : m = n :=
  Int64.toInt_inj.1 (Json.int.inj same)

namespace Control

/-- A value in percent that a directive can change by a difference. -/
inductive Dial where
  | brightness
  | percentage
  | volume
  deriving DecidableEq

namespace Dial

/-- The kind of the directives that turn a dial. -/
def kind : Dial → DirectiveKind
  | .brightness => .adjustBrightness
  | .percentage => .adjustPercentage
  | .volume => .adjustVolume

/-- The field of their payload that holds the difference. -/
def field : Dial → String
  | .brightness => "brightnessDelta"
  | .percentage => "percentageDelta"
  | .volume => "volume"

/-- The interface that reports a dial and accepts the directives. -/
def interface : Dial → Interface
  | .brightness => .brightness
  | .percentage => .percentage
  | .volume => .speaker

/-- The property that reports a dial. -/
def property : Dial → String
  | .brightness => "brightness"
  | .percentage => "percentage"
  | .volume => "volume"

/-- What a directive that turns a dial comes to. -/
def judge : Dial → Situation → Except Refusal Outcome
  | .brightness => adjustBrightness
  | .percentage => adjustPercentage
  | .volume => adjustVolume

/-- The value that a dial of an entity has. -/
def value? : Dial → Entity → Option Int64
  | .brightness, e => some e.brightnessPercentage
  | .percentage, e => e.percentage?
  | .volume, e => (e.attributes.number? Key.volumeLevel).map Percent.ofVolumeLevel

/-- What an outcome says about a dial. -/
def reading (dial : Dial) (value : Int64) : Reading :=
  ⟨dial.interface, dial.property, .ofInt64 value⟩

variable {dial : Dial} {s : Situation} {delta value : Int64}

theorem route (dial : Dial) : dial.kind.route = .control dial.judge := by
  cases dial <;> rfl

theorem accepts (dial : Dial) : dial.interface.accepts dial.kind = true := by
  cases dial <;> rfl

theorem retrievable (dial : Dial) : dial.interface.spec.retrievable = true := by
  cases dial <;> rfl

theorem property_mem (dial : Dial) : dial.property ∈ dial.interface.spec.properties := by
  cases dial <;> simp [property, interface, Interface.spec]

theorem interface_ne_thermostat (dial : Dial) : dial.interface ≠ .thermostat := by
  cases dial <;> simp [interface]

/-- Thermostats have no dials. -/
theorem climate_notMem_domains (dial : Dial) : .climate ∉ dial.kind.domains := by
  cases dial <;> decide

theorem read?_eq (dial : Dial) (e : Entity) (unit : TemperatureUnit) :
    e.read? dial.interface dial.property unit = (dial.value? e).map .ofInt64 := by
  cases dial with
  | brightness | percentage => rfl
  | volume =>
    rw [value?, Option.map_map]
    rfl

/-- When an entity was changed last does not matter. -/
theorem value?_touched (dial : Dial) (e : Entity) (now : Timestamp) :
    dial.value? { e with lastUpdated := now } = dial.value? e := by
  cases dial <;> rfl

/-! ## Turning dials -/

/-- The position that is changed is the one that is reported. -/
theorem currentPercentage_of_percentage (now : s.entity.percentage? = some value) :
    currentPercentage s = .ok value := by
  unfold Entity.percentage? at now
  split at now
  · next cover =>
    rw [currentPercentage, cover]
    unfold Entity.position? at now
    simp only
    cases read : s.entity.attributes.int? Key.currentPosition with
    | some n =>
      rw [read] at now
      cases now
      rw [Attributes.requireInt, Attributes.require_eq_ok_iff.2 read]
    | none =>
      rw [read] at now
      obtain ⟨fault, failed⟩ := Attributes.require_eq_error_iff.2 read
      rw [Attributes.requireInt, failed, show s.entity.attributes.int? Key.position = _ from now]
  · next fan =>
    cases now
    rw [currentPercentage, fan]
  · cases now

theorem exists_percentageCall (possible : s.entity.domain ∈ [Domain.cover, .fan])
    (percentage : Int64) : ∃ c, percentageCall s percentage = .ok c := by
  unfold percentageCall
  rcases List.mem_cons.1 possible with cover | fan
  · rw [cover]
    exact ⟨_, rfl⟩
  · rw [List.mem_singleton.1 fan]
    exact ⟨_, rfl⟩

/-- A dial is set by one call to the value that it is reported to have, changed by the
difference. -/
theorem judge_of_value (possible : s.entity.domain ∈ dial.kind.domains)
    (asked : s.payload.requireInt dial.field = .ok delta)
    (now : dial.value? s.entity = some value) :
    ∃ o c, dial.judge s = .ok o ∧ o.call = some c ∧
      o.readings = [dial.reading (Percent.shift value delta)] := by
  cases dial with
  | brightness =>
    -- the control reads the attribute itself, and reads of it what is reported
    cases now
    exact ⟨_, _, map_eq_ok.2 ⟨delta, asked, rfl⟩, rfl, rfl⟩
  | percentage =>
    obtain ⟨c, made⟩ := exists_percentageCall possible (Percent.shift value delta)
    refine ⟨percentageAnswer c (Percent.shift value delta), c, ?_, rfl, rfl⟩
    exact bind_eq_ok.2 ⟨delta, asked, bind_eq_ok.2 ⟨value, currentPercentage_of_percentage now,
      percentageOutcome_eq_ok.2 ⟨c, made, rfl⟩⟩⟩
  | volume =>
    obtain ⟨level, read, rfl⟩ := Option.map_eq_some_iff.1 now
    have needed : s.entity.attributes.requireNumber Key.volumeLevel = .ok level :=
      Attributes.require_eq_ok_iff.2 read
    refine ⟨volumeOutcome s (Percent.adjustVolumeLevel level delta), _, ?_, rfl, ?_⟩
    · exact bind_eq_ok.2 ⟨delta, asked, bind_eq_ok.2 ⟨level, needs_eq_ok.2 needed, rfl⟩⟩
    · rw [← Percent.ofVolumeLevel_adjustVolumeLevel]
      rfl

/-- A dial of which nothing is reported cannot be turned. -/
theorem lacks_of_value (possible : s.entity.domain ∈ dial.kind.domains)
    (asked : s.payload.requireInt dial.field = .ok delta) (none : dial.value? s.entity = none) :
    Lacks s dial.kind := by
  cases dial with
  | brightness => cases none
  | percentage =>
    have none : s.entity.percentage? = Option.none := none
    rcases List.mem_cons.1 possible with cover | fan
    · rw [Entity.percentage?, cover] at none
      simp only [Entity.position?] at none
      split at none
      · cases none
      · next noCurrent => exact .position asked cover ⟨noCurrent, none⟩
    · rw [Entity.percentage?, List.mem_singleton.1 fan] at none
      cases none
  | volume => exact .volume asked (Option.map_eq_none_iff.1 none)

/-- A dial that has been set has the value that the answer has said, but for fans. -/
theorem value?_of_effect {e e' : Entity} {unit : TemperatureUnit}
    (effect : Effect e unit [dial.reading value] e') (same : e.SameDevice e')
    (notFan : e.domain ≠ .fan) : dial.value? e' = some value := by
  obtain ⟨known, read, confirms⟩ := effect.read? same List.mem_cons_self dial.retrievable
  rw [Entity.Confirms, if_neg fun fan => notFan fan.1] at confirms
  obtain ⟨value', reads, said⟩ := Option.map_eq_some_iff.1 ((dial.read?_eq e' unit).symm.trans read)
  rw [reads, Json.ofInt64_injective (said.trans confirms)]

end Dial

end Control

end HomeVoice
