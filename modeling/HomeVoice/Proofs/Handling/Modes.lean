import HomeVoice.Proofs.Control.Modes
import HomeVoice.Proofs.Handling.Decision

/-!
# Setting a thermostat mode

A thermostat is set to a mode that is asked for exactly when it lists a mode of the hub that is
reported as that one. The first of these in the order of the table is set, and reading it gives what
was asked for.
-/

namespace HomeVoice

namespace Control

open ThermostatMode

/-- For every thermostat and every payload that asks for a mode, the mode is set exactly when the
thermostat lists one that is reported as it: by a single call with the preferred one, which is said
and read as what was asked for. It is not supported otherwise, and a payload that asks for none is
invalid. Only which modes of the table are listed counts; a list with something else than texts in
it lists none. A directive that may control the thermostat performs the decision or is refused. -/
theorem thermostat_mode_chosen (s : Situation) (climate : s.entity.domain = .climate) :
    (∀ mode, mode ∈ s.entity.modes ↔ ∃ listed,
      s.entity.attributes.get? Key.operationList = some (.json (.ofStrings listed)) ∧
        mode ∈ listed) ∧
    (∀ requested, s.payload.mode? = some requested →
      ((∃ o, setThermostatMode s = .ok o) ↔
        ∃ mode ∈ s.entity.modes, reported? mode = some requested) ∧
      (∀ o, setThermostatMode s = .ok o → ∃ mode, SetsMode s requested mode o) ∧
      ∀ r, setThermostatMode s = .error r → r = .unsupportedMode requested) ∧
    (s.payload.mode? = none → ∃ r, setThermostatMode s = .error r ∧ r.Invalid) ∧
    (∀ s' : Situation, s'.entity.id = s.entity.id → s'.payload = s.payload →
      (∀ mode, (reported? mode).isSome → (mode ∈ s'.entity.modes ↔ mode ∈ s.entity.modes)) →
        setThermostatMode s' = setThermostatMode s) ∧
    ∀ {σ : Type} (ports : Ports σ) (st : σ) (q : Request) (message : Json) (d : Directive)
        (id : EntityId) (endpoint : Endpoint), Directive.ofMessage message = .ok d →
        q.Authorised (ports.store st) d .setThermostatMode id s.entity endpoint →
        q.situation d s.entity = s →
      (∀ requested, s.payload.mode? = some requested →
        ((∃ mode ∈ s.entity.modes, reported? mode = some requested) →
          ∃ mode o c, SetsMode s requested mode o ∧ o.call = some c ∧
            q.Performs ports st message c o.readings) ∧
        ((¬∃ mode ∈ s.entity.modes, reported? mode = some requested) →
          q.Refuses ports st message "UNSUPPORTED_THERMOSTAT_MODE")) ∧
      (s.payload.mode? = none → q.Refuses ports st message "INVALID_DIRECTIVE") := by
  have route : DirectiveKind.setThermostatMode.route = .control setThermostatMode := rfl
  refine ⟨fun _ => Entity.mem_modes_iff, ?_, setThermostatMode_of_mode?_eq_none,
    fun s' => setThermostatMode_congr, ?_⟩
  · intro requested asked
    rcases setThermostatMode_cases climate asked with
      ⟨listed, mode, o, decided, sets⟩ | ⟨unlisted, refused⟩
    · refine ⟨iff_of_true ⟨o, decided⟩ listed, ?_, ?_⟩
      · intro o' decided'
        obtain rfl : o = o' := Except.ok.inj (decided.symm.trans decided')
        exact ⟨mode, sets⟩
      · intro r refused
        cases decided.symm.trans refused
    · refine ⟨iff_of_false ?_ unlisted, ?_, ?_⟩
      · rintro ⟨o, decided⟩
        cases refused.symm.trans decided
      · intro o decided
        cases refused.symm.trans decided
      · intro r refused'
        exact Except.error.inj (refused'.symm.trans refused)
  · intro σ ports st q message d id endpoint hd auth same
    constructor
    · intro requested asked
      rcases setThermostatMode_cases climate asked with
        ⟨listed, mode, o, decided, sets⟩ | ⟨unlisted, refused⟩
      · refine ⟨fun _ => ⟨mode, o, _, sets, sets.called, ?_⟩, absurd listed⟩
        exact auth.performs hd route (same.symm ▸ decided) sets.called
      · refine ⟨fun listed => absurd listed unlisted, fun _ => ?_⟩
        show q.Refuses ports st message (Refusal.unsupportedMode requested).kind
        exact auth.refuses hd route (same.symm ▸ refused)
    · intro silent
      obtain ⟨r, refused, invalid⟩ := setThermostatMode_of_mode?_eq_none silent
      rw [← invalid.kind]
      exact auth.refuses hd route (same.symm ▸ refused)

end Control

/-- The thermostat when it can dry and idle, among other things. -/
def Entity.dryHallway : Entity :=
  { Entity.hallway with
    attributes := ⟨[(Key.operationList, .json (.ofStrings ["dry", "party", "idle", "dry"]))]⟩ }

/-- The thermostat with a list that is not of texts alone. -/
def Entity.mixedHallway : Entity :=
  { Entity.hallway with
    attributes := ⟨[(Key.operationList, .json (.arr [.str "heat", .int 3]))]⟩ }

/-- Asks the thermostat for a mode. -/
def Directive.modeHallway (mode : Json) : Directive :=
  { addressed "Alexa.ThermostatController" "SetThermostatMode" Entity.hallway.id with
    payload := ⟨[("thermostatMode", mode)]⟩ }

namespace Control

open ThermostatMode

/-- A thermostat idles when it is told to be off, has no economy mode, and is told nothing by a
number. -/
theorem thermostat_mode_chosen_hallway :
    let q := Request.exposing .all
    let ports := Hub.ports ⟨1, 0⟩ .none
    let hub := Hub.ofEntities [Entity.dryHallway]
    let off := Directive.modeHallway (.object [("value", .str "OFF")])
    let s := q.situation off .dryHallway
    s.entity.domain = .climate ∧ s.payload.mode? = some "OFF" ∧
      (∃ mode ∈ s.entity.modes, reported? mode = some "OFF") ∧
      (∃ o c, SetsMode s "OFF" "idle" o ∧ o.call = some c ∧
        q.Performs ports hub off.envelope c o.readings) ∧
      q.Refuses ports hub (Directive.modeHallway (.str "ECO")).envelope
        "UNSUPPORTED_THERMOSTAT_MODE" ∧
      q.Refuses ports hub (Directive.modeHallway (.int 1)).envelope "INVALID_DIRECTIVE" := by
  intro q ports hub off s
  have listed : ∃ mode ∈ s.entity.modes, reported? mode = some "OFF" :=
    ⟨"dry", by decide, by decide⟩
  have unlisted : ¬∃ mode ∈ Entity.dryHallway.modes, reported? mode = some "ECO" := by decide
  have handled (mode : Json) :=
    (thermostat_mode_chosen (q.situation (.modeHallway mode) .dryHallway) rfl).2.2.2.2 ports hub q
      (Directive.modeHallway mode).envelope (.modeHallway mode) _ _
      (Directive.ofMessage_envelope_of_plain rfl rfl) ⟨rfl, rfl, rfl, rfl, rfl, rfl⟩ rfl
  obtain ⟨mode, o, c, sets, called, performs⟩ :=
    ((handled (.object [("value", .str "OFF")])).1 "OFF" rfl).1 listed
  obtain rfl : mode = "idle" := by
    have chosen := choose?_eq_some_iff.2 sets.preferred
    exact Option.some.inj (chosen.symm.trans rfl)
  exact ⟨rfl, rfl, listed, ⟨o, c, sets, called, performs⟩,
    ((handled (.str "ECO")).1 "ECO" rfl).2 unlisted, (handled (.int 1)).2 rfl⟩

/-- A thermostat whose list has a mode that is asked for, and a number, is not set to it. -/
theorem thermostat_mode_not_chosen_from_mixed_list :
    let s := (Request.exposing .all).situation (.modeHallway (.str "HEAT")) .mixedHallway
    let items : List Json := [.str "heat", .int 3]
    s.entity.domain = .climate ∧ s.payload.mode? = some "HEAT" ∧
      s.entity.attributes.get? Key.operationList = some (.json (.arr items)) ∧
      setThermostatMode s = .error (.unsupportedMode "HEAT") ∧
      ¬((∃ o, setThermostatMode s = .ok o) ↔
        ∃ mode, Json.str mode ∈ items ∧ reported? mode = some "HEAT") := by
  intro s items
  have refused : setThermostatMode s = .error (.unsupportedMode "HEAT") := rfl
  have listed : ∃ mode, Json.str mode ∈ items ∧ reported? mode = some "HEAT" :=
    ⟨"heat", List.mem_cons_self, by decide⟩
  refine ⟨rfl, rfl, rfl, refused, ?_⟩
  intro claimed
  obtain ⟨o, decided⟩ := claimed.2 listed
  cases refused.symm.trans decided

end Control

end HomeVoice
