import HomeVoice.Bridge.Discovery

/-!
# Endpoints of entities

What an endpoint keeps of the entity that it was made from. How an entity is presented decides
about names and the category, never about whether there is an endpoint and what it can do.
-/

namespace HomeVoice

/-- The domains whose entities can have an interface. -/
def Interface.domains : Interface → List Domain
  | .power =>
    [.alert, .automation, .cover, .fan, .group, .inputBoolean, .light, .mediaPlayer, .switch]
  | .brightness | .color | .colorTemperature => [.light]
  | .percentage => [.cover, .fan]
  | .thermostat => [.climate]
  | .temperatureSensor => [.climate, .sensor]
  | .lock => [.lock]
  | .scene => [.scene, .script]
  | .speaker | .stepSpeaker | .playback | .input => [.mediaPlayer]

theorem Interface.mem_all (i : Interface) : i ∈ all := by
  cases i <;> decide

/-- The domains whose entities can be told to do something. -/
def DirectiveKind.domains (k : DirectiveKind) : List Domain :=
  (Interface.all.filter fun i => i.accepts k).flatMap Interface.domains

/-- Sensors cannot be told to do anything. -/
theorem DirectiveKind.sensor_notMem_domains (k : DirectiveKind) : .sensor ∉ k.domains := by
  cases k <;> decide

namespace Entity

variable {e : Entity} {presentation : Option Presentation} {endpoint : Endpoint}

/-- An entity becomes an endpoint when it has a category and a capability. -/
theorem endpoint?_eq_some_iff :
    e.endpoint? presentation = some endpoint ↔
      ∃ category, e.category? = some category ∧ e.capabilities ≠ [] ∧
        { id := .ofEntityId e.id
          friendlyName := (presentation.bind Presentation.name).getD e.name
          description := (presentation.bind Presentation.description).getD e.defaultDescription
          manufacturer := manufacturerName
          categories := [(presentation.bind Presentation.category).getD category]
          capabilities := e.capabilities } = endpoint := by
  unfold endpoint?
  cases e.category? with
  | none => simp
  | some category => cases e.capabilities <;> simp

theorem id_of_endpoint?_eq_some (h : e.endpoint? presentation = some endpoint) :
    endpoint.id = .ofEntityId e.id := by
  obtain ⟨_, _, _, rfl⟩ := endpoint?_eq_some_iff.1 h
  rfl

theorem capabilities_of_endpoint?_eq_some (h : e.endpoint? presentation = some endpoint) :
    endpoint.capabilities = e.capabilities := by
  obtain ⟨_, _, _, rfl⟩ := endpoint?_eq_some_iff.1 h
  rfl

/-- Entities of unknown domains become no endpoint. -/
theorem domain_ne_other_of_endpoint?_eq_some (h : e.endpoint? presentation = some endpoint)
    (name : String) : e.domain ≠ .other name := by
  intro other
  obtain ⟨_, hcategory, _⟩ := endpoint?_eq_some_iff.1 h
  simp [category?, other] at hcategory

/-- A group is switched on and off and nothing else. -/
theorem accepts_of_group (h : e.endpoint? presentation = some endpoint) (group : e.domain = .group)
    {k : DirectiveKind} (accepted : endpoint.accepts k = true) : k = .turnOn ∨ k = .turnOff := by
  unfold Endpoint.accepts Endpoint.interfaces at accepted
  rw [capabilities_of_endpoint?_eq_some h] at accepted
  simpa [capabilities, group, Capability.full, Interface.accepts, Interface.spec] using accepted

/-! ## Domains and interfaces -/

theorem mem_optional {c : Capability} {features : List (Interface × Bool)}
    (h : c ∈ optional features) : ∃ i, (i, true) ∈ features ∧ c = .full i := by
  obtain ⟨⟨i, enabled⟩, member, kept⟩ := List.mem_filterMap.1 h
  cases enabled with
  | false => cases kept
  | true => exact ⟨i, member, (Option.some.inj kept).symm⟩

theorem domain_mem_of_capability {c : Capability} (h : c ∈ e.capabilities) :
    e.domain ∈ c.interface.domains := by
  have offered {features : List (Interface × Bool)} {d : Domain}
      (power : d ∈ Interface.power.domains) (others : ∀ entry ∈ features, d ∈ entry.1.domains)
      (h : c ∈ Capability.full .power :: optional features) : d ∈ c.interface.domains := by
    rcases List.mem_cons.1 h with rfl | h
    · exact power
    · obtain ⟨i, member, rfl⟩ := mem_optional h
      exact others _ member
  unfold capabilities at h
  cases domain : e.domain <;> simp only [domain] at h
  case light | cover | fan | mediaPlayer =>
    exact offered (by decide) (by simp [Interface.domains]) h
  case alert | automation | group | inputBoolean | switch | lock | scene | script =>
    obtain rfl := List.mem_singleton.1 h
    simp [Capability.full, Interface.domains]
  case climate =>
    rcases List.mem_cons.1 h with rfl | h
    · simp [thermostatCapability, Interface.domains]
    · obtain rfl := List.mem_singleton.1 h
      simp [Capability.full, Interface.domains]
  case sensor =>
    split at h
    · obtain rfl := List.mem_singleton.1 h
      simp [Capability.full, Interface.domains]
    · cases h
  case other => cases h

/-- An endpoint accepts only what devices of its domain can be told. -/
theorem domain_mem_of_accepts (shown : e.endpoint? presentation = some endpoint) {k : DirectiveKind}
    (accepted : endpoint.accepts k = true) : e.domain ∈ k.domains := by
  obtain ⟨i, member, accepts⟩ := List.any_eq_true.1 accepted
  obtain ⟨c, listed, rfl⟩ := List.mem_map.1 member
  rw [capabilities_of_endpoint?_eq_some shown] at listed
  refine List.mem_flatMap.2 ⟨c.interface, ?_, domain_mem_of_capability listed⟩
  exact List.mem_filter.2 ⟨c.interface.mem_all, accepts⟩

/-- Of what can be told to do something, only thermostats measure temperatures. -/
theorem climate_of_measures (shown : e.endpoint? presentation = some endpoint) {k : DirectiveKind}
    (accepted : endpoint.accepts k = true) {c : Capability} (listed : c ∈ endpoint.capabilities)
    (measures : c.interface = .temperatureSensor) : e.domain = .climate := by
  have told : e.domain ∈ k.domains := domain_mem_of_accepts shown accepted
  rw [capabilities_of_endpoint?_eq_some shown] at listed
  have domain : e.domain ∈ Interface.temperatureSensor.domains :=
    measures ▸ domain_mem_of_capability listed
  rcases List.mem_cons.1 domain with climate | sensor
  · exact climate
  · rw [List.mem_singleton.1 sensor] at told
    exact absurd told k.sensor_notMem_domains

end Entity

end HomeVoice
