import HomeVoice.Proofs.Discovery.Agreement
import HomeVoice.Proofs.Discovery.Laws
import HomeVoice.Proofs.Handling.Context
import HomeVoice.Proofs.Json.Object

/-!
# Temperatures in answers

Temperatures are read from the state of a sensor and from attributes of a thermostat, which may have
any type and any text. What reads as no number is not reported. But texts such as `nan`, `inf` and
`1e400` do read as numbers, which are not finite, and JSON has no such numbers: the temperature is
reported then, and there is nothing where its value should be. So a reported temperature has a number
exactly when what it was read from reads as a finite one.
-/

namespace HomeVoice

/-- A temperature that an endpoint can report: the one that is measured, or a setpoint. -/
inductive Thermometer where
  | measured
  | setpoint (p : Control.Setpoint)
  deriving DecidableEq

namespace Thermometer

/-- The interface that reports a temperature. -/
def interface : Thermometer → Interface
  | .measured => .temperatureSensor
  | .setpoint _ => .thermostat

/-- The property that reports a temperature. -/
def property : Thermometer → String
  | .measured => "temperature"
  | .setpoint p => p.property

/-- Where a temperature is read from: sensors have what they measure as their state, and thermostats
have everything in attributes. -/
def source? : Thermometer → Entity → Option AttributeValue
  | .measured, e =>
    if e.domain = .climate then e.attributes.get? Key.currentTemperature else some (.text e.state)
  | .setpoint p, e => e.attributes.get? p.key

/-- The number that a temperature is read as. -/
def number? (t : Thermometer) (e : Entity) : Option Binary64 :=
  (t.source? e).bind AttributeValue.asNumber?

/-- The unit of a temperature: that of the hub, but sensors have their own. -/
def unit? : Thermometer → Entity → TemperatureUnit → Option TemperatureUnit
  | .measured, e, unit => if e.domain = .climate then some unit else e.sensorUnit?
  | .setpoint _, _, unit => some unit

/-- The endpoint supports the property that reports a temperature. -/
def DeclaredBy (t : Thermometer) (endpoint : Endpoint) : Prop :=
  ∃ c ∈ endpoint.capabilities, c.interface = t.interface ∧ t.property ∈ c.supported

/-- The answer to a directive of a kind gives a temperature as it is found: a report gives all of
them, and the others what is reported with every answer. -/
def FoundBy (t : Thermometer) (k : DirectiveKind) : Prop :=
  k = .reportState ∨ t.interface.spec.proactive = true

variable {t : Thermometer} {e : Entity} {unit : TemperatureUnit} {endpoint : Endpoint}
  {presentation : Option Presentation}

theorem temperature?_eq (e : Entity) (unit : TemperatureUnit) :
    e.temperature? unit = (measured.unit? e unit).bind fun u =>
      (measured.number? e).map fun x => ⟨x, u.scale⟩ := by
  by_cases climate : e.domain = .climate
  · rw [Entity.temperature?, climate, unit?, if_pos climate, number?, source?, if_pos climate]
    rfl
  · rw [unit?, if_neg climate, number?, source?, if_neg climate]
    unfold Entity.temperature?
    split
    · next other => exact absurd other climate
    · show e.sensorUnit?.bind _ = e.sensorUnit?.bind _
      congr 1
      funext u
      show (Text.readNumber? _).bind _ = (Text.readNumber? _).map _
      rw [Option.map_eq_bind]
      rfl

/-- A temperature is reported with its unit when it is read as a number. -/
theorem read?_eq (t : Thermometer) (e : Entity) (unit : TemperatureUnit) :
    e.read? t.interface t.property unit =
      (t.unit? e unit).bind fun u => (t.number? e).map fun x => Temperature.toJson ⟨x, u.scale⟩ := by
  cases t with
  | measured =>
    show (e.temperature? unit).map Temperature.toJson = _
    rw [temperature?_eq, Option.map_bind]
    congr 1
    funext u
    exact Option.map_map _ _ _
  | setpoint p =>
    have read : e.read? .thermostat p.property unit =
        (e.setpoint? p.key unit).map Temperature.toJson := by
      cases p <;> rfl
    exact read.trans (Option.map_map _ _ _)

/-- What an endpoint declares has a unit. -/
theorem exists_unit (made : e.endpoint? presentation = some endpoint)
    (declared : t.DeclaredBy endpoint) (unit : TemperatureUnit) :
    ∃ u, t.unit? e unit = some u := by
  cases t with
  | setpoint p => exact ⟨unit, rfl⟩
  | measured =>
    by_cases climate : e.domain = .climate
    · exact ⟨unit, if_pos climate⟩
    · obtain ⟨c, listed, interface, -⟩ := declared
      rw [Entity.capabilities_of_endpoint?_eq_some made] at listed
      have possible := Entity.domain_mem_of_capability listed
      rw [interface] at possible
      have sensor : e.domain = .sensor := by
        rcases List.mem_cons.1 possible with other | other
        · exact absurd other climate
        · exact List.mem_singleton.1 other
      rw [Entity.capabilities_of_sensor sensor] at listed
      rw [unit?, if_neg climate]
      cases measures : e.sensorUnit? with
      | none => simp [measures] at listed
      | some u => exact ⟨u, rfl⟩

theorem retrievable (t : Thermometer) : t.interface.spec.retrievable = true := by
  cases t <;> rfl

/-- What a reading of a temperature is of. -/
def key (t : Thermometer) : String × String :=
  (t.interface.nameSpace, t.property)

theorem of_key {r : Reading} (same : r.key = t.key) :
    r.interface = t.interface ∧ r.name = t.property :=
  ⟨Interface.nameSpace_injective (congrArg Prod.fst same), congrArg Prod.snd same⟩

/-- What there is to be read of a temperature. -/
theorem supports_and_read?_iff (made : e.endpoint? presentation = some endpoint) {r : Reading}
    (same : r.key = t.key) :
    endpoint.Supports r ∧ e.read? r.interface r.name unit = some r.value ↔
      t.DeclaredBy endpoint ∧ ∃ u x, t.unit? e unit = some u ∧ t.number? e = some x ∧
        r.value = Temperature.toJson ⟨x, u.scale⟩ := by
  obtain ⟨interface, name⟩ := of_key same
  unfold Endpoint.Supports DeclaredBy
  rw [interface, name, read?_eq]
  refine and_congr_right fun declared => ?_
  obtain ⟨u, unit⟩ := t.exists_unit made declared unit
  rw [unit, Option.bind_some, Option.map_eq_some_iff]
  constructor
  · rintro ⟨x, number, value⟩
    exact ⟨u, x, rfl, number, value.symm⟩
  · rintro ⟨u', x, same, number, value⟩
    obtain rfl := Option.some.inj same
    exact ⟨x, number, value.symm⟩

end Thermometer

/-! ## Numbers of temperatures -/

theorem Temperature.field?_value_toJson (t : Temperature) :
    t.toJson.field? "value" = some (.ofNumber t.value) := by
  rw [toJson, Json.field?_object]
  rfl

/-- The number in a reading of a temperature. -/
def Reading.degrees? (r : Reading) : Option Binary64 :=
  (r.value.field? "value").bind Json.number?

theorem Reading.degrees?_of_value {r : Reading} {x : Binary64} {scale : TemperatureScale}
    (value : r.value = Temperature.toJson ⟨x, scale⟩) :
    r.degrees? = if x.isFinite then some x else none := by
  rw [degrees?, value, Temperature.field?_value_toJson]
  exact Json.number?_ofNumber_eq x

namespace Request

variable {q : Request} {store : Store} {d : Directive} {response : Response}
  {readings : List Reading}

/-- What is retrievable is in a report, and what is reported with every answer is in all answers
about an endpoint, when it can be read. -/
theorem Answered.mem_context_iff (answered : q.Answered store d response)
    (context : response.context = some readings) :
    ∃ k e endpoint, d.kind? = some k ∧ q.lookUp store d = .ok (e, endpoint) ∧
      ∀ r : Reading, r.interface.spec.retrievable = true →
        k = .reportState ∨ r.interface.spec.proactive = true →
        (r ∈ readings ↔
          endpoint.Supports r ∧ e.read? r.interface r.name q.settings.unit = some r.value) := by
  cases answered with
  | refused => cases context
  | discovered => cases context
  | @reported e endpoint kind found =>
    obtain rfl := Option.some.inj context
    refine ⟨_, e, endpoint, kind, found, ?_⟩
    intro r retrievable _
    rw [Entity.mem_retrievable_iff]
    exact and_iff_right retrievable
  | @controlled k judge e endpoint outcome kind route found accepted judged =>
    obtain rfl := Option.some.inj context
    obtain ⟨_, -, -, -, made⟩ := lookUp_eq_ok.1 found
    have decided := Control.decided_of_ok route judged
    refine ⟨k, e, endpoint, kind, found, ?_⟩
    rintro r - (rfl | proactive)
    · cases route
    · constructor
      · intro member
        rcases mem_addReadings member with said | reported
        · -- No control says anything of what is reported with every answer.
          have accepts := (decided.accepts_of_mem_readings said).1
          rw [Interface.not_accepts_of_proactive proactive] at accepts
          cases accepts
        · exact (Entity.mem_proactive_iff.1 reported).2
      · rintro ⟨supported, read⟩
        exact (merged_addReadings decided made).proactive r proactive supported read

/-- An answer with readings is about an endpoint. Of a temperature that it gives as it is found it has
a reading when the endpoint supports it and its source reads as a number, and none otherwise. The
reading has the unit, and it has the number when that is finite; else it has no number at all. So all
of these temperatures have a number exactly when no source reads as a number that is not finite. -/
theorem reported_temperatures {σ : Type} {ports : Ports σ} {s : σ} {message : Json}
    (given : ((q.handle message).run ports s).result = .ok response)
    (context : response.context = some readings) :
    ∃ d k e endpoint, Directive.ofMessage message = .ok d ∧ d.kind? = some k ∧
      q.lookUp (ports.store s) d = .ok (e, endpoint) ∧
      (∀ t : Thermometer, t.FoundBy k →
        ((∃ r ∈ readings, r.key = t.key) ↔
          t.DeclaredBy endpoint ∧ ∃ x, t.number? e = some x) ∧
        ∀ r ∈ readings, r.key = t.key → ∃ u x, t.unit? e q.settings.unit = some u ∧
          t.number? e = some x ∧ r.value = Temperature.toJson ⟨x, u.scale⟩ ∧
          r.degrees? = if x.isFinite then some x else none) ∧
      ((∀ r ∈ readings, ∀ t : Thermometer, t.FoundBy k → r.key = t.key → ∃ x, r.degrees? = some x) ↔
        ∀ t : Thermometer, t.FoundBy k → t.DeclaredBy endpoint →
          ∀ x, t.number? e = some x → x.isFinite = true) := by
  obtain ⟨d, hd, answered⟩ := answered_of_handle given
  obtain ⟨k, e, endpoint, kind, found, mem_iff⟩ := answered.mem_context_iff context
  obtain ⟨_, -, -, -, made⟩ := lookUp_eq_ok.1 found
  have mem_iff {t : Thermometer} (finds : t.FoundBy k) {r : Reading} (same : r.key = t.key) :
      r ∈ readings ↔ t.DeclaredBy endpoint ∧ ∃ u x, t.unit? e q.settings.unit = some u ∧
        t.number? e = some x ∧ r.value = Temperature.toJson ⟨x, u.scale⟩ := by
    obtain ⟨interface, -⟩ := Thermometer.of_key same
    rw [mem_iff r (interface ▸ t.retrievable) (interface ▸ finds)]
    exact Thermometer.supports_and_read?_iff made same
  have exists_mem {t : Thermometer} (finds : t.FoundBy k) (declared : t.DeclaredBy endpoint)
      {x : Binary64} (number : t.number? e = some x) :
      ∃ r ∈ readings, r.key = t.key ∧ r.degrees? = if x.isFinite then some x else none := by
    obtain ⟨u, unit⟩ := t.exists_unit made declared q.settings.unit
    have same : (Reading.mk t.interface t.property (Temperature.toJson ⟨x, u.scale⟩)).key = t.key :=
      rfl
    exact ⟨_, (mem_iff finds same).2 ⟨declared, u, x, unit, number, rfl⟩, same,
      Reading.degrees?_of_value rfl⟩
  refine ⟨d, k, e, endpoint, hd, kind, found, ?_, ?_⟩
  · intro t finds
    refine ⟨⟨?_, ?_⟩, ?_⟩
    · rintro ⟨r, member, same⟩
      obtain ⟨declared, -, x, -, number, -⟩ := (mem_iff finds same).1 member
      exact ⟨declared, x, number⟩
    · rintro ⟨declared, x, number⟩
      obtain ⟨r, member, same, -⟩ := exists_mem finds declared number
      exact ⟨r, member, same⟩
    · intro r member same
      obtain ⟨-, u, x, unit, number, value⟩ := (mem_iff finds same).1 member
      exact ⟨u, x, unit, number, value, Reading.degrees?_of_value value⟩
  · constructor
    · intro all t finds declared x number
      obtain ⟨r, member, same, degrees⟩ := exists_mem finds declared number
      obtain ⟨y, known⟩ := all r member t finds same
      rw [degrees] at known
      by_contra notFinite
      rw [if_neg notFinite] at known
      cases known
    · intro finite r member t finds same
      obtain ⟨declared, u, x, -, number, value⟩ := (mem_iff finds same).1 member
      refine ⟨x, ?_⟩
      rw [Reading.degrees?_of_value value, if_pos (finite t finds declared x number)]

end Request

/-- A sensor that measures degrees Celsius. -/
def Entity.outdoors (state : String) : Entity :=
  { gauge with state, attributes := ⟨[(Key.unitOfMeasurement, .text "°C")]⟩ }

namespace Request

/-- A sensor with a number as its state reports it, and so has a number in its report. -/
theorem reported_temperatures_outdoors :
    let hub := Hub.ofEntities [Entity.outdoors " 21.5"]
    let asks := (Directive.addressed "Alexa" "ReportState" Entity.gauge.id).envelope
    ∃ response readings, (exposing .all).resultOn ⟨1, 0⟩ hub asks = .ok response ∧
      response.context = some readings ∧
      ∃ r ∈ readings, r.key = Thermometer.measured.key ∧ r.degrees? = some 21.5 := by
  intro hub asks
  let endpoint := ((Entity.outdoors " 21.5").endpoint? none).get rfl
  obtain ⟨response, readings, given, context⟩ : ∃ response readings,
      (exposing .all).resultOn ⟨1, 0⟩ hub asks = .ok response ∧ response.context = some readings :=
    ⟨_, _, rfl, rfl⟩
  obtain ⟨d, k, e, endpoint', hd, kind, found, each, -⟩ := reported_temperatures given context
  obtain rfl := Except.ok.inj ((Directive.ofMessage_envelope_addressed _ _ _).symm.trans hd)
  obtain rfl : DirectiveKind.reportState = k := Option.some.inj kind
  have found' : (exposing .all).lookUp ((Hub.ports ⟨1, 0⟩ .none).store hub)
      (Directive.addressed "Alexa" "ReportState" Entity.gauge.id) =
        .ok (Entity.outdoors " 21.5", endpoint) := rfl
  obtain ⟨rfl, rfl⟩ := Prod.mk.inj (Except.ok.inj (found'.symm.trans found))
  obtain ⟨present_iff, reads⟩ := each .measured (.inl rfl)
  have number : Thermometer.measured.number? (Entity.outdoors " 21.5") = some 21.5 := by
    decide +kernel
  obtain ⟨r, member, same⟩ :=
    present_iff.2 ⟨⟨.full .temperatureSensor, List.mem_singleton.2 rfl, rfl, by decide⟩, _, number⟩
  obtain ⟨u, x, -, number', -, degrees⟩ := reads r member same
  obtain rfl := Option.some.inj (number.symm.trans number')
  exact ⟨response, readings, given, context, r, member, same, degrees.trans (by decide +kernel)⟩

/-- A sensor whose state is the name of what is not a number reports a temperature all the same, and
the temperature has no number. -/
theorem reported_temperature_without_number :
    let hub := Hub.ofEntities [Entity.outdoors "nan"]
    let asks := (Directive.addressed "Alexa" "ReportState" Entity.gauge.id).envelope
    ∃ response readings, (exposing .all).resultOn ⟨1, 0⟩ hub asks = .ok response ∧
      response.name = "StateReport" ∧ response.context = some readings ∧
      ∃ r ∈ readings, r.key = Thermometer.measured.key ∧
        r.value = .object [("value", .null), ("scale", .str "CELSIUS")] ∧ r.degrees? = none := by
  intro hub asks
  refine ⟨_, _, rfl, rfl, rfl, ⟨.temperatureSensor, "temperature", _⟩, ?_, rfl, rfl, rfl⟩
  exact List.mem_cons_self

end Request

end HomeVoice
