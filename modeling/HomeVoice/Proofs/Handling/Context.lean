import HomeVoice.Hub.Ports
import HomeVoice.Proofs.Control.InRange
import HomeVoice.Proofs.Control.ReadBack
import HomeVoice.Proofs.Handling.Answered
import HomeVoice.Proofs.Protocol.Envelope

/-!
# The readings in an answer

An answer never has two readings of one property, and every reading is of an interface that the
endpoint declares and of a property in the table of the interface. In the answer to a control,
readings come from two sources: the control says what will be, and what is reported with every
answer says what was. Where both say something of one property, the control is believed; everything
else that is reported with every answer is there as well.
-/

namespace HomeVoice

namespace Reading

variable {r r' : Reading}

/-- What a reading is of. -/
def key (r : Reading) : String × String :=
  (r.interface.nameSpace, r.name)

theorem sameKey_iff_key_eq : r.sameKey r' = true ↔ r.key = r'.key := by
  simp [sameKey, key]

theorem interface_eq_of_key_eq (same : r.key = r'.key) : r.interface = r'.interface :=
  Interface.nameSpace_injective (congrArg Prod.fst same)

end Reading

/-- The readings are of different properties, all of them properties of an endpoint. -/
structure Endpoint.Reports (endpoint : Endpoint) (readings : List Reading) : Prop where
  nodup : (readings.map Reading.key).Nodup
  declared : ∀ r ∈ readings, r.interface ∈ endpoint.interfaces ∧
    r.name ∈ r.interface.spec.properties

/-! ## Readings of one source -/

namespace Entity

variable {e : Entity} {unit : TemperatureUnit} {presentation : Option Presentation}
  {endpoint : Endpoint} {c : Capability} {r : Reading}

/-- Of one capability there is at most one reading for each property that it supports. -/
theorem keys_readings_sublist (e : Entity) (unit : TemperatureUnit) (c : Capability) :
    ((e.readings unit c).map Reading.key).Sublist
      (c.supported.map fun name => (c.interface.nameSpace, name)) := by
  rw [readings, List.map_filterMap]
  refine filterMap_sublist_map ?_ c.supported
  intro name key kept
  obtain ⟨r, read, rfl⟩ := Option.map_eq_some_iff.1 kept
  obtain ⟨value, -, rfl⟩ := Option.map_eq_some_iff.1 read
  rfl

/-- The readings of the interfaces of one sort are readings of the endpoint. -/
theorem reports_flatMap_readings (made : e.endpoint? presentation = some endpoint)
    (unit : TemperatureUnit) (p : InterfaceSpec → Bool) :
    endpoint.Reports
      ((endpoint.capabilities.filter fun c => p c.interface.spec).flatMap (e.readings unit)) where
  nodup := by
    rw [capabilities_of_endpoint?_eq_some made, List.map_flatMap, List.nodup_flatMap]
    constructor
    · intro c listed
      have supported := supported_sublist (List.mem_filter.1 listed).1
      exact (keys_readings_sublist e unit c).nodup
        ((supported.nodup c.interface.nodup_properties).map fun _ _ same => congrArg Prod.snd same)
    · -- Different capabilities are of different interfaces.
      refine ((List.pairwise_map.1 e.nodup_interfaces).filter _).imp ?_
      intro c c' different key read read'
      obtain ⟨r, member, rfl⟩ := List.mem_map.1 read
      obtain ⟨r', member', same⟩ := List.mem_map.1 read'
      obtain ⟨interface, -, -⟩ := mem_readings_iff.1 member
      obtain ⟨interface', -, -⟩ := mem_readings_iff.1 member'
      exact different (interface.trans
        ((Reading.interface_eq_of_key_eq same).symm.trans interface'.symm))
  declared := by
    intro r member
    obtain ⟨-, ⟨c, declared, interface, supported⟩, -⟩ := mem_flatMap_readings_iff.1 member
    rw [← interface]
    refine ⟨List.mem_map_of_mem declared, ?_⟩
    rw [capabilities_of_endpoint?_eq_some made] at declared
    exact (supported_sublist declared).subset supported

end Entity

/-! ## Readings of both sources -/

namespace Request

variable {readings others : List Reading} {r : Reading}

theorem addReadings_cons_of_mem (known : r.key ∈ readings.map Reading.key) :
    addReadings readings (r :: others) = addReadings readings others := by
  have found : readings.any (fun s => s.sameKey r) = true := by
    obtain ⟨s, member, same⟩ := List.mem_map.1 known
    exact List.any_eq_true.2 ⟨s, member, Reading.sameKey_iff_key_eq.2 same⟩
  rw [addReadings, List.foldl_cons, if_pos found]
  rfl

theorem addReadings_cons_of_notMem (new : r.key ∉ readings.map Reading.key) :
    addReadings readings (r :: others) = addReadings (readings ++ [r]) others := by
  have notFound : ¬readings.any (fun s => s.sameKey r) = true := by
    intro found
    obtain ⟨s, member, same⟩ := List.any_eq_true.1 found
    exact new (List.mem_map.2 ⟨s, member, Reading.sameKey_iff_key_eq.1 same⟩)
  rw [addReadings, List.foldl_cons, if_neg notFound]
  rfl

/-- The readings that come first are kept. -/
theorem prefix_addReadings (readings others : List Reading) :
    readings <+: addReadings readings others := by
  induction others generalizing readings with
  | nil => exact List.prefix_refl _
  | cons r rest ih =>
    by_cases known : r.key ∈ readings.map Reading.key
    · rw [addReadings_cons_of_mem known]
      exact ih readings
    · rw [addReadings_cons_of_notMem known]
      exact (List.prefix_append _ _).trans (ih _)

/-- Only readings of properties that have not been read are added. -/
theorem nodup_addReadings (distinct : (readings.map Reading.key).Nodup) :
    ((addReadings readings others).map Reading.key).Nodup := by
  induction others generalizing readings with
  | nil => exact distinct
  | cons r rest ih =>
    by_cases known : r.key ∈ readings.map Reading.key
    · rw [addReadings_cons_of_mem known]
      exact ih distinct
    · rw [addReadings_cons_of_notMem known]
      refine ih ?_
      rw [List.map_append]
      exact List.concat_eq_append ▸ distinct.concat known

/-- A reading is added unless there is one of its property. -/
theorem mem_addReadings_of_mem (distinct : (others.map Reading.key).Nodup) (member : r ∈ others)
    (new : r.key ∉ readings.map Reading.key) : r ∈ addReadings readings others := by
  induction others generalizing readings with
  | nil => cases member
  | cons r' rest ih =>
    obtain ⟨different, distinct⟩ := List.nodup_cons.1 distinct
    rcases List.mem_cons.1 member with rfl | later
    · rw [addReadings_cons_of_notMem new]
      exact (prefix_addReadings _ rest).subset (List.mem_append_right _ List.mem_cons_self)
    · by_cases known : r'.key ∈ readings.map Reading.key
      · rw [addReadings_cons_of_mem known]
        exact ih distinct later new
      · rw [addReadings_cons_of_notMem known]
        refine ih distinct later ?_
        rw [List.map_append, List.mem_append]
        rintro (old | same)
        · exact new old
        · exact different (List.mem_singleton.1 same ▸ List.mem_map_of_mem later)

end Request

namespace Control

variable {s : Situation} {k : DirectiveKind} {o : Outcome}

theorem Setpoint.property_injective {p p' : Setpoint} (h : p.property = p'.property) : p = p' := by
  revert h
  cases p <;> cases p' <;> decide

/-- Setpoints are read back as properties of their own. -/
theorem keys_setpointOutcome (s : Situation) (setpoints : List (Setpoint × Binary64)) :
    (setpointOutcome s setpoints).readings.map Reading.key =
      (setpoints.map Prod.fst).map fun p => (Interface.thermostat.nameSpace, p.property) := by
  rw [List.map_map]
  exact List.map_map

theorem nodup_keys_setpointOutcome (s : Situation) {setpoints : List (Setpoint × Binary64)}
    (distinct : (setpoints.map Prod.fst).Nodup) :
    ((setpointOutcome s setpoints).readings.map Reading.key).Nodup := by
  rw [keys_setpointOutcome]
  refine distinct.map ?_
  intro p p' same
  exact Setpoint.property_injective (congrArg Prod.snd same)

/-- A control says something of a property at most once. -/
theorem Decided.nodup_readings (h : Decided s k o) : (o.readings.map Reading.key).Nodup := by
  cases h with
  | setTargetTemperature => exact nodup_keys_setpointOutcome s (nodup_setpointsOf _ _)
  | stepNone | stepUp | stepDown | stepSetMute | play | pause | stop | next | previous
  | selectInput | activate | deactivate => exact .nil
  | _ => exact List.nodup_singleton _

theorem mem_readings_setpointOutcome {setpoints : List (Setpoint × Binary64)} {r : Reading}
    (member : r ∈ (setpointOutcome s setpoints).readings) :
    r.interface = .thermostat ∧ r.name ∈ Interface.thermostat.spec.properties := by
  obtain ⟨⟨p, value⟩, -, rfl⟩ := List.mem_map.1 member
  refine ⟨rfl, ?_⟩
  cases p <;> simp [Setpoint.property, Interface.spec]

/-- What a control says is of the interface that accepts it. -/
theorem Decided.accepts_of_mem_readings (h : Decided s k o) {r : Reading}
    (member : r ∈ o.readings) :
    r.interface.accepts k = true ∧ r.name ∈ r.interface.spec.properties := by
  cases h with
  | setTargetTemperature | adjustTargetTemperature =>
    obtain ⟨thermostat, listed⟩ := mem_readings_setpointOutcome member
    rw [thermostat]
    exact ⟨rfl, listed⟩
  | stepNone | stepUp | stepDown | stepSetMute | play | pause | stop | next | previous
  | selectInput | activate | deactivate => cases member
  | _ =>
    obtain rfl := List.mem_singleton.1 member
    exact ⟨rfl, by simp [Interface.spec]⟩

end Control

/-- What is in the answer to a control: all that the control says, which is believed over anything
else that is said of the same property, and all that is reported with every answer. -/
structure Outcome.Merged (o : Outcome) (entity : Entity) (endpoint : Endpoint)
    (unit : TemperatureUnit) (readings : List Reading) : Prop where
  kept : ∀ r ∈ o.readings, r ∈ readings ∧ ∀ r' ∈ readings, r'.key = r.key → r' = r
  proactive : ∀ r : Reading, r.interface.spec.proactive = true → endpoint.Supports r →
    entity.read? r.interface r.name unit = some r.value → r ∈ readings

namespace Request

open Control

variable {q : Request} {s : Situation} {k : DirectiveKind} {o : Outcome} {e : Entity}
  {endpoint : Endpoint} {presentation : Option Presentation} {unit : TemperatureUnit}

/-- The readings in the answer to a control are readings of the endpoint. -/
theorem reports_addReadings (decided : Decided s k o) (accepted : endpoint.accepts k = true)
    (made : e.endpoint? presentation = some endpoint) (unit : TemperatureUnit) :
    endpoint.Reports (addReadings o.readings (e.proactive unit endpoint)) where
  nodup := nodup_addReadings decided.nodup_readings
  declared := by
    intro r member
    rcases mem_addReadings member with said | reported
    · obtain ⟨accepts, listed⟩ := decided.accepts_of_mem_readings said
      obtain ⟨i, declared, accepts'⟩ := List.any_eq_true.1 accepted
      rw [Interface.eq_of_accepts accepts accepts'] at listed ⊢
      exact ⟨declared, listed⟩
    · exact (Entity.reports_flatMap_readings made unit _).declared r reported

/-- No control says anything of what is reported with every answer, so nothing of it is lost. -/
theorem merged_addReadings (decided : Decided s k o)
    (made : e.endpoint? presentation = some endpoint) :
    o.Merged e endpoint unit (addReadings o.readings (e.proactive unit endpoint)) where
  kept := by
    intro r said
    have member := (prefix_addReadings o.readings (e.proactive unit endpoint)).subset said
    refine ⟨member, fun r' member' same => ?_⟩
    exact List.inj_on_of_nodup_map (nodup_addReadings decided.nodup_readings) member' member same
  proactive := by
    intro r proactive supported read
    refine mem_addReadings_of_mem (Entity.reports_flatMap_readings made unit _).nodup
      (Entity.mem_proactive_iff.2 ⟨proactive, supported, read⟩) ?_
    intro known
    obtain ⟨r', said, same⟩ := List.mem_map.1 known
    have accepts := (decided.accepts_of_mem_readings said).1
    rw [Reading.interface_eq_of_key_eq same, Interface.not_accepts_of_proactive proactive]
      at accepts
    cases accepts

/-- An answer with a context is about an endpoint, and the readings in it are of different
properties, all of them properties that the endpoint has. In the answer to a control each reading
that the control gives stands as it was given, and everything is there that is reported with every
answer and can be read. -/
theorem context_of_handle {σ : Type} {ports : Ports σ} {state : σ} {message : Json}
    {response : Response} {readings : List Reading}
    (given : ((q.handle message).run ports state).result = .ok response)
    (context : response.context = some readings) :
    ∃ d k entity endpoint, Directive.ofMessage message = .ok d ∧ d.kind? = some k ∧
      q.lookUp (ports.store state) d = .ok (entity, endpoint) ∧ endpoint.Reports readings ∧
      ∀ judge, k.route = .control judge → ∃ outcome,
        judge (q.situation d entity) = .ok outcome ∧
        outcome.Merged entity endpoint q.settings.unit readings := by
  obtain ⟨d, hd, answered⟩ := answered_of_handle given
  cases answered with
  | refused refusal => cases context
  | discovered kind entities => cases context
  | @reported entity endpoint kind found =>
    obtain rfl : entity.retrievable q.settings.unit endpoint = readings := Option.some.inj context
    obtain ⟨_, -, -, -, made⟩ := lookUp_eq_ok.1 found
    refine ⟨d, _, entity, endpoint, hd, kind, found,
      Entity.reports_flatMap_readings made q.settings.unit _, ?_⟩
    intro judge route
    cases route
  | @controlled k judge entity endpoint outcome kind route found accepted judged =>
    obtain rfl : addReadings outcome.readings (entity.proactive q.settings.unit endpoint) =
      readings := Option.some.inj context
    obtain ⟨_, -, -, -, made⟩ := lookUp_eq_ok.1 found
    have decided := decided_of_ok route judged
    refine ⟨d, k, entity, endpoint, hd, kind, found,
      reports_addReadings decided accepted made q.settings.unit, ?_⟩
    intro judge' route'
    obtain rfl : judge = judge' := Route.control.inj (route.symm.trans route')
    exact ⟨outcome, judged, merged_addReadings decided made⟩

end Request

/-- The thermostat when it heats and can be told to cool. -/
def Entity.warmHallway : Entity :=
  { Entity.hallway with
    state := "heat"
    attributes := ⟨[(Key.currentTemperature, .int 21),
      (Key.operationList, .json (.ofStrings ["heat", "cool"]))]⟩ }

/-- Asks the thermostat to cool. -/
def Directive.coolHallway : Directive :=
  { addressed "Alexa.ThermostatController" "SetThermostatMode" Entity.warmHallway.id with
    payload := ⟨[("thermostatMode", .str "COOL")]⟩ }

/-- A thermostat that is told to cool says so, and says how warm it is. -/
theorem Request.context_of_handle_hallway :
    let q := exposing .all
    let hub := Hub.ofEntities [Entity.warmHallway]
    ∃ response readings, ∃ endpoint : Endpoint,
      ((q.handle Directive.coolHallway.envelope).run (Hub.ports ⟨1, 0⟩ .none) hub).result =
        .ok response ∧
      response.context = some readings ∧ endpoint.Reports readings ∧
      readings.map Reading.key = [("Alexa.ThermostatController", "thermostatMode"),
        ("Alexa.TemperatureSensor", "temperature")] ∧
      ∃ r ∈ readings, r.name = "thermostatMode" ∧ r.value = .str "COOL" := by
  intro q hub
  obtain ⟨response, readings, given, context, keys, said⟩ : ∃ response readings,
      ((q.handle Directive.coolHallway.envelope).run (Hub.ports ⟨1, 0⟩ .none) hub).result =
        .ok response ∧
      response.context = some readings ∧
      readings.map Reading.key = [("Alexa.ThermostatController", "thermostatMode"),
        ("Alexa.TemperatureSensor", "temperature")] ∧
      ∃ r ∈ readings, r.name = "thermostatMode" ∧ r.value = .str "COOL" :=
    ⟨_, _, rfl, rfl, rfl, _, List.mem_cons_self, rfl, rfl⟩
  obtain ⟨-, -, -, endpoint, -, -, -, reports, -⟩ := context_of_handle given context
  exact ⟨response, readings, endpoint, given, context, reports, keys, said⟩

end HomeVoice
