import HomeVoice.Proofs.Control.Setpoints
import HomeVoice.Proofs.Handling.Context
import HomeVoice.Proofs.Handling.Dispatch

/-!
# Setting setpoints

A directive that sets setpoints is carried out as a whole or not at all. When the thermostat goes
along with the payload there is one call for all setpoints that are asked for, and the answer
reports them; when it does not, nothing is called and the answer says why.
-/

namespace HomeVoice

namespace Control

/-- Which setpoints are accepted, for every thermostat, unit and payload, and what comes of them.
The decision is to set them exactly when the payload is acceptable, by a single call that carries
all of them and nothing else, and with a reading of each; else they are refused. A directive that
may control the thermostat makes this call or none, and its answer starts with these readings or
says how the setpoints were refused. -/
theorem setpoints_accepted_iff (s : Situation) (climate : s.entity.domain = .climate) :
    (Acceptable s ↔ ∃ o, setTargetTemperature s = .ok o) ∧
    (∀ o, setTargetTemperature s = .ok o → ∃ c, Sets s o c) ∧
    (∀ r, setTargetTemperature s = .error r → RefusesSetpoints s r) ∧
    ∀ {σ : Type} (ports : Ports σ) (st : σ) (q : Request) (message : Json) (d : Directive)
        (id : EntityId) (endpoint : Endpoint), Directive.ofMessage message = .ok d →
        q.Authorised (ports.store st) d .setTargetTemperature id s.entity endpoint →
        q.situation d s.entity = s →
      let run := (q.handle message).run ports st
      (Acceptable s → ∃ o c, Sets s o c ∧ run.calls = [(c, q.context)] ∧
        ((ports.call st c q.context).1 = .ok () → ∃ response readings, run.result = .ok response ∧
          response.isError = false ∧ response.context = some readings ∧
          o.readings <+: readings)) ∧
      (¬Acceptable s → run.calls = [] ∧ ∃ r response, RefusesSetpoints s r ∧
        run.result = .ok response ∧ response.isError = true ∧
        response.payload.get? "type" = some (.str r.kind) ∧
        response.payload.get? "validRange" = r.validRange?) := by
  have route : DirectiveKind.setTargetTemperature.route = .control setTargetTemperature := rfl
  rcases setTargetTemperature_cases climate with
    ⟨acceptable, o, c, decided, sets⟩ | ⟨unacceptable, r, refused, refuses⟩
  · refine ⟨iff_of_true acceptable ⟨o, decided⟩, ?_, ?_, ?_⟩
    · intro o' decided'
      obtain rfl : o = o' := Except.ok.inj (decided.symm.trans decided')
      exact ⟨c, sets⟩
    · intro r refused
      cases decided.symm.trans refused
    · intro σ ports st q message d id endpoint hd auth same run
      refine ⟨fun _ => ?_, absurd acceptable⟩
      obtain ⟨calls, result⟩ :=
        auth.handle_of_ok hd route (same.symm ▸ decided) sets.called
      refine ⟨o, c, sets, calls, fun accepted => ⟨_, _, result accepted, ?_, rfl, ?_⟩⟩
      · exact decide_eq_false (decided_of_ok (k := .setTargetTemperature) rfl decided).name_ne
      · exact Request.prefix_addReadings _ _
  · refine ⟨iff_of_false unacceptable ?_, ?_, ?_, ?_⟩
    · rintro ⟨o, decided⟩
      cases refused.symm.trans decided
    · intro o decided
      cases refused.symm.trans decided
    · intro r' refused'
      obtain rfl : r = r' := Except.error.inj (refused.symm.trans refused')
      exact refuses
    · intro σ ports st q message d id endpoint hd auth same run
      refine ⟨fun acceptable => absurd acceptable unacceptable, fun _ => ?_⟩
      obtain ⟨calls, result⟩ := auth.handle_of_error hd route
        (same.symm ▸ refused)
      exact ⟨calls, r, _, refuses, result, rfl, r.get?_type_payload, r.get?_validRange_payload⟩

end Control

/-- Asks the thermostat for at least 68 °F and no upper bound. -/
def Directive.halfHallway : Directive :=
  { addressed "Alexa.ThermostatController" "SetTargetTemperature" Entity.hallway.id with
    payload := ⟨[("lowerSetpoint", .object [("value", .int 68), ("scale", .str "FAHRENHEIT")])]⟩ }

namespace Control

/-- A thermostat sets a pair of bounds that are given on two scales, and refuses half a pair. -/
theorem setpoints_accepted_iff_hallway :
    let q := Request.exposing .all
    let hub := Hub.ofEntities [Entity.hallway]
    let run (d : Directive) := (q.handle d.envelope).run (Hub.ports ⟨1, 0⟩ .none) hub
    let whole := q.situation Directive.mildHallway .hallway
    let half := q.situation Directive.halfHallway .hallway
    whole.entity.domain = .climate ∧ Acceptable whole ∧
      (∃ o c, Sets whole o c ∧ (run Directive.mildHallway).calls = [(c, q.context)]) ∧
      ¬Acceptable half ∧ (run Directive.halfHallway).calls = [] ∧
      ∃ r, setTargetTemperature half = .error r ∧ RefusesSetpoints half r := by
  intro q hub run whole half
  have decided := setTargetTemperature_hallway q.stamp.now
  obtain ⟨accepted, -, -, handled⟩ := setpoints_accepted_iff whole rfl
  have acceptable : Acceptable whole := accepted.2 ⟨_, decided⟩
  obtain ⟨o, c, sets, calls, -⟩ := (handled (Hub.ports ⟨1, 0⟩ .none) hub q _
    Directive.mildHallway _ _ (Directive.ofMessage_envelope_of_plain rfl rfl)
    ⟨rfl, rfl, rfl, rfl, rfl, rfl⟩ rfl).1 acceptable
  have unacceptable : ¬Acceptable half := by
    intro acceptable
    cases acceptable.paired.1 rfl
  obtain ⟨accepted, -, refuses, handled⟩ := setpoints_accepted_iff half rfl
  obtain ⟨uncalled, -⟩ := (handled (Hub.ports ⟨1, 0⟩ .none) hub q _ Directive.halfHallway _ _
    (Directive.ofMessage_envelope_of_plain rfl rfl) ⟨rfl, rfl, rfl, rfl, rfl, rfl⟩ rfl).2
      unacceptable
  refine ⟨rfl, acceptable, ⟨o, c, sets, calls⟩, unacceptable, uncalled, ?_⟩
  cases refused : setTargetTemperature half with
  | ok o => exact absurd (accepted.2 ⟨o, refused⟩) unacceptable
  | error r => exact ⟨r, rfl, refuses r refused⟩

end Control

end HomeVoice
