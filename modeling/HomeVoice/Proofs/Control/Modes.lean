import HomeVoice.Proofs.Control.Checked
import HomeVoice.Proofs.Control.Refused
import HomeVoice.Proofs.Entity.Id
import Mathlib.Data.List.Find

/-!
# Choosing a thermostat mode

Several modes of the hub are reported as one mode of the protocol. When that one is asked for, the
first of them in the table that the thermostat lists is set, and it is read as what was asked for.
Only which modes of the table are listed matters, not how.
-/

namespace HomeVoice

namespace ThermostatMode

variable {supported supported' : List String} {requested mode : String}

/-- The table says what a mode is reported as. -/
theorem mem_table_iff : (mode, requested) ∈ table ↔ reported? mode = some requested := by
  constructor
  · exact reported?_of_mem
  · intro reported
    obtain ⟨entry, found, rfl⟩ := Option.map_eq_some_iff.1 reported
    obtain rfl : entry.1 = mode := by simpa using List.find?_some found
    exact List.mem_of_find?_eq_some found

/-- The first mode in the order of the table that is supported and reported as the one that is
requested. -/
def Preferred (supported : List String) (requested mode : String) : Prop :=
  ∃ before after, table = before ++ (mode, requested) :: after ∧ mode ∈ supported ∧
    ∀ entry ∈ before, entry.2 = requested → entry.1 ∉ supported

theorem choose?_eq_some_iff :
    choose? supported requested = some mode ↔ Preferred supported requested mode := by
  unfold choose?
  rw [Option.map_eq_some_iff]
  constructor
  · rintro ⟨entry, found, rfl⟩
    obtain ⟨fits, before, after, split, passed⟩ := List.find?_eq_some_iff_append.1 found
    simp only [Bool.and_eq_true, decide_eq_true_eq, List.contains_iff_mem] at fits
    obtain ⟨rfl, listed⟩ := fits
    refine ⟨before, after, split, listed, ?_⟩
    intro other member same listed
    simpa [same, listed] using passed other member
  · rintro ⟨before, after, split, listed, passed⟩
    refine ⟨(mode, requested), List.find?_eq_some_iff_append.2 ⟨?_, before, after, split, ?_⟩, rfl⟩
    · simpa using listed
    · intro other member
      simpa [imp_iff_not_or] using passed other member

/-- There is a mode to choose exactly when a supported one is reported as the one requested. -/
theorem exists_choose?_iff :
    (∃ mode, choose? supported requested = some mode) ↔
      ∃ mode ∈ supported, reported? mode = some requested := by
  constructor
  · rintro ⟨mode, chosen⟩
    exact ⟨mode, of_choose?_eq_some chosen⟩
  · rintro ⟨mode, listed, reported⟩
    have fits : (table.find? fun entry =>
        entry.2 = requested && supported.contains entry.1).isSome := by
      refine List.find?_isSome.2 ⟨(mode, requested), mem_table_iff.2 reported, ?_⟩
      simpa using listed
    obtain ⟨entry, found⟩ := Option.isSome_iff_exists.1 fits
    exact ⟨entry.1, congrArg (Option.map Prod.fst) found⟩

/-- Only modes that are reported as something count, and only whether they are supported. -/
theorem choose?_congr
    (same : ∀ mode, (reported? mode).isSome → (mode ∈ supported ↔ mode ∈ supported'))
    (requested : String) : choose? supported requested = choose? supported' requested := by
  unfold choose?
  congr 1
  refine List.find?_congr fun entry member => ?_
  have alike : supported.contains entry.1 = supported'.contains entry.1 := by
    rw [Bool.eq_iff_iff, List.contains_iff_mem, List.contains_iff_mem]
    exact same entry.1 (by rw [reported?_of_mem member]; rfl)
  rw [alike]

end ThermostatMode

theorem Json.mapM_str?_eq_some_iff {items : List Json} {texts : List String} :
    items.mapM str? = some texts ↔ items = texts.map .str := by
  induction items generalizing texts with
  | nil => cases texts <;> simp
  | cons item rest ih =>
    rw [List.mapM_cons]
    cases texts with
    | nil => cases item <;> simp [str?, Option.bind_eq_some_iff]
    | cons text texts =>
      cases item <;> simp [str?, Option.bind_eq_some_iff, ← ih, and_comm]

/-- A value is a list of texts exactly when all of its items are texts. -/
theorem Json.strings?_eq_some_iff {j : Json} {texts : List String} :
    j.strings? = some texts ↔ j = .ofStrings texts := by
  cases j with
  | arr items =>
    show items.mapM str? = some texts ↔ Json.arr items = .arr (texts.map .str)
    rw [mapM_str?_eq_some_iff, Json.arr.injEq]
  | _ => simp [strings?, ofStrings]

/-- The modes that an entity lists. -/
def Entity.modes (e : Entity) : List String :=
  (e.attributes.texts? Key.operationList).getD []

/-- Modes are only listed by a list that has nothing but texts. -/
theorem Entity.mem_modes_iff {e : Entity} {mode : String} :
    mode ∈ e.modes ↔ ∃ listed,
      e.attributes.get? Key.operationList = some (.json (.ofStrings listed)) ∧ mode ∈ listed := by
  unfold modes Attributes.texts?
  cases e.attributes.get? Key.operationList with
  | none => simp
  | some value =>
    cases value with
    | json j =>
      show mode ∈ j.strings?.getD [] ↔ _
      simp only [Option.some.injEq, AttributeValue.json.injEq, ← Json.strings?_eq_some_iff]
      cases j.strings? <;> simp
    | _ => simp [AttributeValue.asTexts?]

/-- The mode that a payload asks for: a text by itself, or in an object as its value. -/
def Payload.mode? (p : Payload) : Option String :=
  match p.get? "thermostatMode" with
  | some (.str mode) => some mode
  | some (.obj fields) => (Dict.get? fields "value").bind Json.str?
  | _ => none

namespace Control

open ThermostatMode

theorem modeArgument_eq_ok_iff {p : Payload} {requested : String} :
    modeArgument p = .ok requested ↔ p.mode? = some requested := by
  unfold modeArgument Payload.require Payload.mode?
  cases p.get? "thermostatMode" with
  | none => simp [Except.bind]
  | some j =>
    simp only [Except.bind]
    cases j
    case str mode => simp
    case obj fields =>
      dsimp only
      cases (Dict.get? fields "value").bind Json.str? <;> simp
    all_goals simp

/-- The decision to set a mode, which is said to be another. -/
def modeOutcome (s : Situation) (requested mode : String) : Outcome :=
  (Outcome.respond ((s.call "set_operation_mode").withData Key.operationMode
    (.str mode))).withReading .thermostat "thermostatMode" (.str requested)

variable {s : Situation} {requested : String}

theorem setThermostatMode_eq (asked : s.payload.mode? = some requested) :
    setThermostatMode s =
      match choose? s.entity.modes requested with
      | some mode => .ok (modeOutcome s requested mode)
      | none => .error (.unsupportedMode requested) := by
  unfold setThermostatMode
  rw [modeArgument_eq_ok_iff.2 asked]
  rfl

/-- A payload that asks for no mode is invalid. -/
theorem setThermostatMode_of_mode?_eq_none (silent : s.payload.mode? = none) :
    ∃ r, setThermostatMode s = .error r ∧ r.Invalid := by
  cases asked : modeArgument s.payload with
  | ok requested => cases silent.symm.trans (modeArgument_eq_ok_iff.1 asked)
  | error r =>
    refine ⟨r, ?_, invalid_modeArgument _ r asked⟩
    unfold setThermostatMode
    rw [asked]
    rfl

/-- A call sets a mode of the hub for the one requested: the preferred one, and nothing else. -/
structure SetsMode (s : Situation) (requested mode : String) (o : Outcome) : Prop where
  preferred : Preferred s.entity.modes requested mode
  called : o.call = some
    ⟨"climate", "set_operation_mode", s.entity.id, [(Key.operationMode, .str mode)]⟩
  readings : o.readings = [⟨.thermostat, "thermostatMode", .str requested⟩]
  readBack : ∀ (e : Entity) (unit : TemperatureUnit),
    e.attributes.get? Key.operationMode = some (.text mode) →
      e.read? .thermostat "thermostatMode" unit = some (.str requested)

theorem setsMode_modeOutcome (climate : s.entity.domain = .climate) {mode : String}
    (chosen : choose? s.entity.modes requested = some mode) :
    SetsMode s requested mode (modeOutcome s requested mode) where
  preferred := choose?_eq_some_iff.1 chosen
  called := by
    have domain : s.entity.id.domainName = "climate" := by
      rw [EntityId.domainName_eq]
      exact congrArg Domain.name climate
    simp only [modeOutcome, Situation.call, ServiceCall.own, ServiceCall.inDomain, domain]
    rfl
  readings := rfl
  readBack := by
    intro e unit set
    show ((Attributes.text? _ Key.operationMode).bind reported?).map Json.str = _
    have text : e.attributes.text? Key.operationMode = some mode := by
      rw [Attributes.text?, set]
      rfl
    rw [text]
    exact congrArg (Option.map Json.str) (of_choose?_eq_some chosen).2

/-- What comes of a payload that asks for a mode: the preferred one that the thermostat lists is
set, or there is none and the mode is not supported. -/
theorem setThermostatMode_cases (climate : s.entity.domain = .climate)
    (asked : s.payload.mode? = some requested) :
    ((∃ mode ∈ s.entity.modes, reported? mode = some requested) ∧
      ∃ mode o, setThermostatMode s = .ok o ∧ SetsMode s requested mode o) ∨
    ((¬∃ mode ∈ s.entity.modes, reported? mode = some requested) ∧
      setThermostatMode s = .error (.unsupportedMode requested)) := by
  rw [← exists_choose?_iff, setThermostatMode_eq asked]
  cases chosen : choose? s.entity.modes requested with
  | none => exact .inr ⟨by simp, rfl⟩
  | some mode =>
    exact .inl ⟨⟨mode, rfl⟩, mode, _, rfl, setsMode_modeOutcome climate chosen⟩

/-- The decision depends on the list only for which modes that are reported as something are in
it. -/
theorem setThermostatMode_congr {s' : Situation} (id : s'.entity.id = s.entity.id)
    (payload : s'.payload = s.payload)
    (same : ∀ mode, (reported? mode).isSome → (mode ∈ s'.entity.modes ↔ mode ∈ s.entity.modes)) :
    setThermostatMode s' = setThermostatMode s := by
  have chosen (requested : String) :
      choose? ((s'.entity.attributes.texts? Key.operationList).getD []) requested =
        choose? ((s.entity.attributes.texts? Key.operationList).getD []) requested :=
    choose?_congr same requested
  simp only [setThermostatMode, payload, chosen, Situation.call, id]

end Control

end HomeVoice
