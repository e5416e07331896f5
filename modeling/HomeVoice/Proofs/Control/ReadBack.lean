import HomeVoice.Bridge.Handle
import HomeVoice.Proofs.Control.Effect
import HomeVoice.Proofs.Discovery.Capabilities

/-!
# What control says is what is read back

An answer says what the state of the entity will be, and a report reads it from the attributes that
the hub has then, in the units of the hub. The two agree, but for fans: the percentage that a fan is
told selects a speed, and what is read back is the percentage of that speed.
-/

namespace HomeVoice

/-! ## Readings -/

theorem Reading.sameKey_iff {r r' : Reading} :
    r.sameKey r' = true ↔ r.interface = r'.interface ∧ r.name = r'.name := by
  unfold sameKey
  rw [Bool.and_eq_true, decide_eq_true_eq, decide_eq_true_eq]
  exact and_congr_left fun _ => ⟨Interface.nameSpace_injective, congrArg _⟩

/-- The endpoint has the interface of a reading and supports the property that is read. -/
def Endpoint.Supports (endpoint : Endpoint) (r : Reading) : Prop :=
  ∃ c ∈ endpoint.capabilities, c.interface = r.interface ∧ r.name ∈ c.supported

namespace Entity

variable {e : Entity} {unit : TemperatureUnit} {endpoint : Endpoint} {r : Reading}

theorem mem_readings_iff {c : Capability} :
    r ∈ e.readings unit c ↔
      c.interface = r.interface ∧ r.name ∈ c.supported ∧
        e.read? r.interface r.name unit = some r.value := by
  constructor
  · intro member
    obtain ⟨name, supported, given⟩ := List.mem_filterMap.1 member
    obtain ⟨value, read, rfl⟩ := Option.map_eq_some_iff.1 given
    exact ⟨rfl, supported, read⟩
  · rintro ⟨interface, supported, read⟩
    refine List.mem_filterMap.2 ⟨r.name, supported, ?_⟩
    rw [interface, read]
    rfl

/-- The readings of the interfaces of one sort are what is read of their properties that are
supported. -/
theorem mem_flatMap_readings_iff {p : InterfaceSpec → Bool} :
    r ∈ (endpoint.capabilities.filter fun c => p c.interface.spec).flatMap (e.readings unit) ↔
      p r.interface.spec = true ∧ endpoint.Supports r ∧
        e.read? r.interface r.name unit = some r.value := by
  constructor
  · intro member
    obtain ⟨c, listed, member⟩ := List.mem_flatMap.1 member
    obtain ⟨listed, sort⟩ := List.mem_filter.1 listed
    obtain ⟨interface, supported, read⟩ := mem_readings_iff.1 member
    exact ⟨interface ▸ sort, ⟨c, listed, interface, supported⟩, read⟩
  · rintro ⟨sort, ⟨c, listed, interface, supported⟩, read⟩
    refine List.mem_flatMap.2 ⟨c, ?_, mem_readings_iff.2 ⟨interface, supported, read⟩⟩
    exact List.mem_filter.2 ⟨listed, interface ▸ sort⟩

/-- The readings on request are what is read of the properties that are supported and
retrievable. -/
theorem mem_retrievable_iff :
    r ∈ e.retrievable unit endpoint ↔
      r.interface.spec.retrievable = true ∧ endpoint.Supports r ∧
        e.read? r.interface r.name unit = some r.value :=
  mem_flatMap_readings_iff

/-- The readings with every answer are what is read of the properties that are supported and
reported proactively. -/
theorem mem_proactive_iff :
    r ∈ e.proactive unit endpoint ↔
      r.interface.spec.proactive = true ∧ endpoint.Supports r ∧
        e.read? r.interface r.name unit = some r.value :=
  mem_flatMap_readings_iff

/-- Only temperatures that are measured are reported with every answer. -/
theorem of_mem_proactive (member : r ∈ e.proactive unit endpoint) :
    r.interface = .temperatureSensor ∧ endpoint.Supports r ∧
      e.read? r.interface r.name unit = some r.value := by
  obtain ⟨proactive, supported⟩ := mem_proactive_iff.1 member
  refine ⟨?_, supported⟩
  revert proactive
  cases r.interface <;> decide

/-- What is read of an entity for a property that an answer has reported. -/
def Confirms (e : Entity) (r : Reading) (value : Json) : Prop :=
  if e.domain = .fan ∧ r.interface = .percentage then
    ∃ told known : Int64, r.value = .ofInt64 told ∧
      e.speedTable.percentageOf? (e.speedTable.speedFor told) = some known ∧
        value = .ofInt64 known
  else value = r.value

theorem confirms_self (h : ¬(e.domain = .fan ∧ r.interface = .percentage)) :
    e.Confirms r r.value := by
  rw [Confirms, if_neg h]

end Entity

theorem Request.mem_addReadings {readings others : List Reading} {r : Reading}
    (h : r ∈ addReadings readings others) : r ∈ readings ∨ r ∈ others := by
  unfold addReadings at h
  induction others generalizing readings with
  | nil => exact .inl h
  | cons other rest ih =>
    rcases ih h with member | member
    · simp only at member
      split at member
      · exact .inl member
      · rcases List.mem_append.1 member with member | member
        · exact .inl member
        · exact .inr (List.mem_singleton.1 member ▸ List.mem_cons_self)
    · exact .inr (List.mem_cons_of_mem _ member)

/-! ## What is read of what has been written -/

namespace Entity

variable {e : Entity} {unit : TemperatureUnit}

theorem brightnessPercentage_of_written {percent : Int64}
    (percentage : Percent.IsPercentage percent) :
    (e.withAttribute Key.brightness (.int (Percent.toBrightness percent))).brightnessPercentage =
      percent := by
  rw [brightnessPercentage, number?_withAttribute_self]
  exact Percent.ofBrightness_toBrightness percentage

theorem position?_withAttribute (e : Entity) (n : Int64) :
    (e.withAttribute Key.currentPosition (.int n)).position? = some n := by
  rw [position?, int?_withAttribute_self]
  rfl

theorem percentage?_of_position (cover : e.domain = .cover) (n : Int64) :
    (e.withAttribute Key.currentPosition (.int n)).percentage? = some n := by
  have domain : (e.withAttribute Key.currentPosition (.int n)).domain = .cover := cover
  rw [percentage?, domain]
  exact e.position?_withAttribute n

theorem percentage?_of_speed (fan : e.domain = .fan) {speed : String} {percentage : Int64}
    (known : e.speedTable.percentageOf? speed = some percentage) :
    (e.withAttribute Key.speed (.text speed)).percentage? = some percentage := by
  have written : Key.speed ∈ writtenKeys := by decide
  have same := SameDevice.withAttribute e written (.text speed)
  rw [percentage?, same.domain, fan]
  show some (speedPercentage _) = _
  rw [speedPercentage, same.speedTable, text?_withAttribute_self]
  show some ((e.speedTable.percentageOf? speed).getD 0) = _
  rw [known]
  rfl

end Entity

namespace Control

variable {e e' : Entity} {unit : TemperatureUnit} {readings : List Reading}

theorem read?_property (p : Setpoint) :
    e.read? .thermostat p.property unit = (e.setpoint? p.key unit).map Temperature.toJson := by
  cases p <;> rfl

/-- What the answer has said of properties that can be read is what is then read. -/
theorem Effect.read? (effect : Effect e unit readings e') (same : e.SameDevice e') {r : Reading}
    (said : r ∈ readings) (retrievable : r.interface.spec.retrievable = true) :
    ∃ value, e'.read? r.interface r.name unit = some value ∧ e.Confirms r value := by
  cases effect with
  | kept | restated | stepped | selected => cases said
  | on | off | opened | closed | locked | unlocked =>
    obtain rfl := List.mem_singleton.1 said
    exact ⟨_, rfl, Entity.confirms_self (by simp)⟩
  | @dimmed percent light percentage =>
    obtain rfl := List.mem_singleton.1 said
    refine ⟨.ofInt64 percent, ?_, Entity.confirms_self (by simp)⟩
    have back := Entity.brightnessPercentage_of_written (e := e) percentage
    exact congrArg (some ∘ Json.ofInt64) back
  | colored =>
    obtain rfl := List.mem_singleton.1 said
    cases retrievable
  | @whitened mireds kelvin light back =>
    obtain rfl := List.mem_singleton.1 said
    refine ⟨.ofInt64 kelvin, ?_, Entity.confirms_self (by simp)⟩
    have written := e.number?_withAttribute_self Key.colorTemperature (.int mireds)
    show ((e.withAttribute _ _).attributes.number? Key.colorTemperature).bind (fun mired =>
      (Color.miredToKelvin mired).toOption.bind fun kelvin => some (Json.ofInt64 kelvin)) = _
    rw [written]
    show ((Color.miredToKelvin (.ofInt64 mireds)).toOption.bind _) = _
    rw [back]
    rfl
  | @moved position cover percentage =>
    obtain rfl := List.mem_singleton.1 said
    refine ⟨.ofInt64 position, ?_, Entity.confirms_self (by simp [cover])⟩
    have back := Entity.percentage?_of_position (e := e.withState _) cover position
    exact congrArg (Option.map Json.ofInt64) back
  | @sped told fan =>
    obtain rfl := List.mem_singleton.1 said
    obtain ⟨known, found⟩ := SpeedTable.exists_percentageOf? (e.speedTable.knows_speedFor told)
    refine ⟨.ofInt64 known, ?_, ?_⟩
    · have back := Entity.percentage?_of_speed (e := e.withState _) fan found
      exact congrArg (Option.map Json.ofInt64) back
    · rw [Entity.Confirms, if_pos ⟨fan, rfl⟩]
      exact ⟨told, known, rfl, found, rfl⟩
  | @heated target pair climate allowed finite =>
    obtain ⟨⟨p, x⟩, member, rfl⟩ := List.mem_map.1 said
    refine ⟨_, ?_, Entity.confirms_self (by simp)⟩
    have written := get?_withSetpoints (e := e) finite p
    rw [mem_setpointsOf member] at written
    show Entity.read? _ .thermostat p.property unit = _
    rw [read?_property, Entity.setpoint?, Attributes.number?, written]
    rfl
  | @moded requested mode modes climate reported listed member =>
    obtain rfl := List.mem_singleton.1 said
    refine ⟨.str requested, ?_, Entity.confirms_self (by simp)⟩
    have written := (e.withState mode).text?_withAttribute_self Key.operationMode (.text mode)
    show ((Attributes.text? _ Key.operationMode).bind ThermostatMode.reported?).map Json.str = _
    rw [written]
    show (ThermostatMode.reported? mode).map Json.str = _
    rw [reported]
    rfl
  | @loud n player =>
    obtain rfl := List.mem_singleton.1 said
    refine ⟨_, ?_, Entity.confirms_self (by simp)⟩
    have written := e.number?_withAttribute_self Key.volumeLevel
      (.number ((Percent.toVolumeLevel n).clamp 0 1))
    have within := Percent.toVolumeLevel_within n
    show (Attributes.number? _ Key.volumeLevel).map _ = _
    rw [Entity.withVolume, written, Binary64.clamp_of_between within.1 within.2]
    rfl
  | @muted told said' player all =>
    obtain rfl := all r said
    refine ⟨.bool told, ?_, Entity.confirms_self (by simp)⟩
    have written := e.flag_withAttribute_self Key.volumeMuted (.flag told)
    exact congrArg (some ∘ Json.bool) written

/-- The temperature that a thermostat measures is not changed by control. -/
theorem read?_measured (same : e.SameDevice e') (climate : e.domain = .climate) (name : String) :
    e'.read? .temperatureSensor name unit = e.read? .temperatureSensor name unit := by
  have measured : e'.temperature? unit = e.temperature? unit := by
    unfold Entity.temperature?
    rw [same.domain, climate]
    exact congrArg (Option.map _) (same.number? (by decide))
  by_cases temperature : name = "temperature"
  · subst temperature
    exact congrArg (Option.map Temperature.toJson) measured
  · unfold Entity.read?
    split <;> simp_all

end Control

end HomeVoice
