import HomeVoice.Proofs.Discovery.Capabilities
import HomeVoice.Proofs.Entity.Features

/-!
# The laws of endpoints

Which entities become endpoints is decided by their domains and, for sensors, by their units. An
endpoint declares the interface of its domain first and no interface twice, and the more features an
entity has, the more its endpoint declares.
-/

namespace HomeVoice

namespace Domain

/-- The interface that each endpoint of a domain has. -/
def base? : Domain → Option Interface
  | .alert | .automation | .cover | .fan | .group | .inputBoolean | .light | .mediaPlayer
  | .switch => some .power
  | .climate => some .thermostat
  | .lock => some .lock
  | .scene | .script => some .scene
  | .sensor => some .temperatureSensor
  | .other _ => none

/-- The domains that have a place of their own are those with their names. -/
theorem ofName_mem_known_iff {name : String} :
    ofName name ∈ known ↔ name ∈ known.map Domain.name := by
  constructor
  · intro member
    exact List.mem_map.2 ⟨ofName name, member, name_ofName name⟩
  · intro named
    unfold ofName
    cases found : known.find? fun d => d.name = name with
    | some d => exact List.mem_of_find?_eq_some found
    | none =>
      obtain ⟨d, member, same⟩ := List.mem_map.1 named
      exact absurd same (by simpa using List.find?_eq_none.1 found d member)

end Domain

namespace Entity

/-- Two entities differ in nothing but their features. -/
structure SameButFeatures (e e' : Entity) : Prop where
  id : e'.id = e.id
  state : e'.state = e.state
  lastUpdated : e'.lastUpdated = e.lastUpdated
  get? : ∀ key, key ≠ "supported_features" → e'.attributes.get? key = e.attributes.get? key

variable {e e' : Entity} {presentation : Option Presentation} {endpoint : Endpoint}

theorem text?_of_sameButFeatures (same : e.SameButFeatures e') {key : String}
    (other : key ≠ "supported_features") : e'.attributes.text? key = e.attributes.text? key := by
  rw [Attributes.text?, Attributes.text?, same.get? key other]

/-! ## Which entities become endpoints -/

/-- The unit in which a sensor measures temperatures. -/
def sensorUnit? (e : Entity) : Option TemperatureUnit :=
  (e.attributes.text? Key.unitOfMeasurement).bind TemperatureUnit.ofSymbol?

theorem sensorUnit?_eq_none_iff :
    e.sensorUnit? = none ↔
      e.attributes.text? Key.unitOfMeasurement ∉ [some "°C", some "°F"] := by
  unfold sensorUnit?
  cases e.attributes.text? Key.unitOfMeasurement with
  | none => simp
  | some symbol =>
    rw [Option.bind_some, TemperatureUnit.ofSymbol?, List.find?_eq_none]
    simp [TemperatureUnit.symbol, eq_comm]

theorem isSome_category?_iff : e.category?.isSome = true ↔ e.domain ∈ Domain.known := by
  unfold category?
  cases e.domain with
  | cover =>
    refine iff_of_true ?_ (by decide)
    simp only
    split
    · rfl
    · split <;> rfl
  | other name => simp [Domain.known]
  | _ => exact iff_of_true rfl (by decide)

/-- What a sensor declares. -/
theorem capabilities_of_sensor (sensor : e.domain = .sensor) :
    e.capabilities = (e.sensorUnit?.map fun _ => Capability.full .temperatureSensor).toList := by
  unfold capabilities sensorUnit?
  rw [sensor]
  simp only
  cases (e.attributes.text? Key.unitOfMeasurement).bind TemperatureUnit.ofSymbol? <;> rfl

/-- The interface of the domain comes first. -/
theorem head?_interfaces (declared : e.capabilities ≠ []) :
    (e.capabilities.map Capability.interface).head? = e.domain.base? := by
  cases domain : e.domain with
  | sensor =>
    rw [capabilities_of_sensor domain] at declared ⊢
    cases measures : e.sensorUnit? with
    | none => simp [measures] at declared
    | some unit => rfl
  | other name => simp [capabilities, domain] at declared
  | _ =>
    unfold capabilities
    rw [domain]
    rfl

/-- Nothing is declared by entities of other domains and by sensors that measure something else. -/
theorem capabilities_eq_nil_iff :
    e.capabilities = [] ↔
      e.domain ∉ Domain.known ∨ e.domain = .sensor ∧ e.sensorUnit? = none := by
  cases domain : e.domain with
  | sensor =>
    rw [capabilities_of_sensor domain]
    cases e.sensorUnit? <;> simp [Domain.known]
  | other name => simp [capabilities, domain, Domain.known]
  | _ => simp [capabilities, domain, Domain.known]

/-- An entity becomes no endpoint when its domain has no place of its own, or when it is a sensor
that does not measure temperatures. -/
theorem endpoint?_eq_none_iff (e : Entity) (presentation : Option Presentation) :
    e.endpoint? presentation = none ↔
      e.domain ∉ Domain.known ∨ e.domain = .sensor ∧ e.sensorUnit? = none := by
  rw [← capabilities_eq_nil_iff]
  unfold endpoint?
  cases category : e.category? with
  | none =>
    have unknown : e.domain ∉ Domain.known := by
      rw [← isSome_category?_iff, category]
      decide
    simp [capabilities_eq_nil_iff.2 (.inl unknown)]
  | some c => cases e.capabilities <;> simp

/-! ## What features add -/

/-- Of the interfaces that come with features, more are declared when more are enabled. -/
theorem optional_sublist {features features' : List (Interface × Bool)}
    (more : List.Forall₂ (fun a b => b.1 = a.1 ∧ (a.2 = true → b.2 = true)) features features') :
    (optional features).Sublist (optional features') := by
  refine filterMap_sublist_filterMap (more.imp ?_)
  rintro ⟨i, on⟩ ⟨j, on'⟩ ⟨rfl, enabled⟩ c kept
  cases on with
  | false => cases kept
  | true =>
    obtain rfl : on' = true := enabled rfl
    exact kept

/-- A thermostat with more features declares more properties. -/
theorem supported_thermostatCapability_mono {f f' : Features} (included : f ⊆ f') :
    (thermostatCapability f).supported.Sublist (thermostatCapability f').supported := by
  refine filterMap_sublist_filterMap (List.forall₂_same.2 ?_)
  rintro ⟨g, name⟩ - c kept
  simp only at kept ⊢
  split at kept
  · next contained => rwa [if_pos (Features.contains_mono included contained)]
  · cases kept

/-- An entity with more features declares more interfaces. -/
theorem interfaces_sublist (same : e.SameButFeatures e')
    (included : e.attributes.features ⊆ e'.attributes.features) :
    (e.capabilities.map Capability.interface).Sublist
      (e'.capabilities.map Capability.interface) := by
  have domain : e'.domain = e.domain := congrArg EntityId.domain same.id
  have contains (g : Features) := Features.contains_mono (g := g) included
  have intersects (g : Features) := Features.intersects_mono (g := g) included
  cases kind : e.domain
  case light | cover | fan | mediaPlayer =>
    refine List.Sublist.map _ ?_
    unfold capabilities
    rw [domain, kind]
    refine (optional_sublist ?_).cons_cons _
    grind [List.forall₂_cons, List.Forall₂.nil]
  case climate | script =>
    unfold capabilities
    rw [domain, kind]
    exact .refl _
  case sensor =>
    have unit : e'.sensorUnit? = e.sensorUnit? := by
      rw [sensorUnit?, text?_of_sameButFeatures same (by decide), sensorUnit?]
    rw [capabilities_of_sensor kind, capabilities_of_sensor (domain.trans kind), unit]
  case alert | automation | group | inputBoolean | switch | lock | scene | other =>
    unfold capabilities
    rw [domain, kind]

/-- The interface of thermostats is declared by their capability alone. -/
theorem eq_thermostatCapability {c : Capability} (declared : c ∈ e.capabilities)
    (thermostat : c.interface = .thermostat) : c = thermostatCapability e.attributes.features := by
  have among := domain_mem_of_capability declared
  rw [thermostat] at among
  have climate : e.domain = .climate := List.mem_singleton.1 among
  unfold capabilities at declared
  rw [climate] at declared
  rcases List.mem_cons.1 declared with rfl | declared
  · rfl
  · obtain rfl := List.mem_singleton.1 declared
    cases thermostat

/-- Interfaces other than that of thermostats are declared with all their properties. -/
theorem supported_of_ne_thermostat {c : Capability} (declared : c ∈ e.capabilities)
    (other : c.interface ≠ .thermostat) : c.supported = c.interface.spec.properties := by
  rcases supported_cases declared with rfl | whole
  · exact absurd rfl other
  · exact whole

/-- Of an interface that both declare, the entity with more features declares more properties. -/
theorem supported_sublist_supported
    (included : e.attributes.features ⊆ e'.attributes.features) {c c' : Capability}
    (declared : c ∈ e.capabilities) (declared' : c' ∈ e'.capabilities)
    (interface : c'.interface = c.interface) : c.supported.Sublist c'.supported := by
  by_cases thermostat : c.interface = .thermostat
  · rw [eq_thermostatCapability declared thermostat,
      eq_thermostatCapability declared' (interface.trans thermostat)]
    exact supported_thermostatCapability_mono included
  · rw [supported_of_ne_thermostat declared thermostat,
      supported_of_ne_thermostat declared' (interface ▸ thermostat), interface]

/-! ## The laws -/

/-- An entity becomes an endpoint, however it is presented, unless its domain has no place of its own
or it is a sensor without a unit of temperature. The endpoint declares the interface of the domain
first, no interface twice, and of each interface some properties in the order of the table, or all
where it is not that of thermostats. An entity that differs in having more features becomes an
endpoint that declares no less. -/
theorem endpoint_laws (e : Entity) (presentation : Option Presentation) :
    (e.endpoint? presentation = none ↔
      e.id.domainName ∉ Domain.known.map Domain.name ∨
        e.domain = .sensor ∧
          e.attributes.text? Key.unitOfMeasurement ∉ [some "°C", some "°F"]) ∧
    ∀ endpoint, e.endpoint? presentation = some endpoint →
      endpoint.interfaces.Nodup ∧
      endpoint.interfaces.head? = e.domain.base? ∧
      (∀ c ∈ endpoint.capabilities,
        c.supported.Nodup ∧ c.supported.Sublist c.interface.spec.properties ∧
          (c.interface ≠ .thermostat → c.supported = c.interface.spec.properties)) ∧
      ∀ e' presentation', e.SameButFeatures e' →
        e.attributes.features ⊆ e'.attributes.features →
          ∃ endpoint', e'.endpoint? presentation' = some endpoint' ∧
            endpoint.interfaces.Sublist endpoint'.interfaces ∧
            ∀ c ∈ endpoint.capabilities, ∀ c' ∈ endpoint'.capabilities,
              c'.interface = c.interface → c.supported.Sublist c'.supported := by
  have none_iff (e : Entity) (presentation : Option Presentation) :
      e.endpoint? presentation = none ↔
        e.id.domainName ∉ Domain.known.map Domain.name ∨
          e.domain = .sensor ∧
            e.attributes.text? Key.unitOfMeasurement ∉ [some "°C", some "°F"] := by
    rw [endpoint?_eq_none_iff, sensorUnit?_eq_none_iff, domain, EntityId.domain,
      Domain.ofName_mem_known_iff]
  refine ⟨none_iff e presentation, ?_⟩
  intro endpoint made
  obtain ⟨_, _, declared, rfl⟩ := endpoint?_eq_some_iff.1 made
  refine ⟨nodup_interfaces e, head?_interfaces declared, ?_, ?_⟩
  · intro c member
    exact ⟨c.interface.nodup_properties.sublist (supported_sublist member),
      supported_sublist member, supported_of_ne_thermostat member⟩
  · intro e' presentation' same included
    cases made' : e'.endpoint? presentation' with
    | none =>
      -- Whether there is an endpoint does not depend on the features.
      rw [none_iff, same.id, text?_of_sameButFeatures same (by decide), domain, same.id, ← domain,
        ← none_iff e presentation, made] at made'
      cases made'
    | some endpoint' =>
      obtain ⟨_, _, _, rfl⟩ := endpoint?_eq_some_iff.1 made'
      refine ⟨_, rfl, interfaces_sublist same included, ?_⟩
      intro c member c' member'
      exact supported_sublist_supported included member member'

/-- A thermostat whose features come as text, of which only the first is read. -/
def parlour : Entity :=
  ⟨⟨Domain.climate.name, "parlour", by decide, by decide, by decide⟩, "heat",
    ⟨[("supported_features", .text " 1.9 ")]⟩, ⟨0, 0⟩⟩

/-- The thermostat after it has learnt to keep a range and to change its mode. -/
def parlourRange : Entity :=
  { parlour with attributes := ⟨[("supported_features", .number 135)]⟩ }

/-- The thermostat declares one property before and all four of the table after, in its order. -/
theorem endpoint_laws_parlour :
    parlour.SameButFeatures parlourRange ∧
      parlour.attributes.features ⊆ parlourRange.attributes.features ∧
      ∃ endpoint endpoint',
        parlour.endpoint? none = some endpoint ∧ parlourRange.endpoint? none = some endpoint' ∧
        endpoint.interfaces.head? = some .thermostat ∧
        endpoint.interfaces.Sublist endpoint'.interfaces ∧
        endpoint.capabilities.map Capability.supported = [["targetSetpoint"], ["temperature"]] ∧
        ["targetSetpoint"].Sublist
          ["thermostatMode", "targetSetpoint", "lowerSetpoint", "upperSetpoint"] := by
  have same : parlour.SameButFeatures parlourRange := by
    refine ⟨rfl, rfl, rfl, ?_⟩
    intro key other
    simp [parlour, parlourRange, Attributes.get?, Dict.get?, other.symm]
  have included : parlour.attributes.features ⊆ parlourRange.attributes.features :=
    Features.contains_iff_subset.1 (by decide +kernel)
  obtain ⟨-, first, -, more⟩ := (endpoint_laws parlour none).2 _ rfl
  obtain ⟨endpoint', made', interfaces, supported⟩ := more parlourRange none same included
  cases made'
  refine ⟨same, included, _, _, rfl, rfl, first, interfaces, by decide +kernel, ?_⟩
  exact supported ⟨.thermostat, ["targetSetpoint"], none⟩ (by decide +kernel)
    ⟨.thermostat, _, none⟩ (by decide +kernel) rfl

end Entity

end HomeVoice
