import HomeVoice.Proofs.Discovery.Agreement
import HomeVoice.Proofs.Handling.Decision
import HomeVoice.Proofs.Hub.Table

/-!
# Deactivation

Scenes and scripts can be started; a script can also be stopped, and a scene cannot. Discovery says
that a script can be stopped when it has an attribute that says so. The attribute is not asked for
when the script is to be stopped, so that what is offered is always done, and more is done than is
offered.
-/

namespace HomeVoice

namespace Entity

variable {e : Entity} {presentation : Option Presentation} {endpoint : Endpoint}

/-- The entity can be started: it is a scene or a script. -/
def Starts (e : Entity) : Prop :=
  e.domain = .scene ∨ e.domain = .script

/-- Whether it is a script with an attribute by which it can be stopped. -/
def offersStop (e : Entity) : Bool :=
  e.domain = .script && e.attributes.flag Key.canCancel

theorem offersStop_iff :
    e.offersStop = true ↔ e.domain = .script ∧ e.attributes.flag Key.canCancel = true := by
  simp [offersStop]

/-- Whoever can be started has one capability, which says whether it can be stopped. -/
theorem capabilities_of_starts (starts : e.Starts) :
    e.capabilities = [{ Capability.full .scene with deactivation := some e.offersStop }] := by
  rcases starts with scene | script
  · simp [capabilities, offersStop, scene]
  · simp [capabilities, offersStop, script]

theorem exists_endpoint?_of_starts (starts : e.Starts) (presentation : Option Presentation) :
    ∃ endpoint, e.endpoint? presentation = some endpoint := by
  have capable : e.capabilities ≠ [] := by
    rw [capabilities_of_starts starts]
    exact List.cons_ne_nil _ _
  have categorised : ∃ category, e.category? = some category := by
    rcases starts with scene | script
    · exact ⟨_, by rw [category?, scene]⟩
    · exact ⟨_, by rw [category?, script]⟩
  obtain ⟨category, found⟩ := categorised
  exact ⟨_, endpoint?_eq_some_iff.2 ⟨category, found, capable, rfl⟩⟩

theorem accepts_deactivate_of_starts (starts : e.Starts)
    (shown : e.endpoint? presentation = some endpoint) : endpoint.accepts .deactivate = true := by
  unfold Endpoint.accepts Endpoint.interfaces
  rw [capabilities_of_endpoint?_eq_some shown, capabilities_of_starts starts]
  rfl

/-- What the endpoint of whoever can be started says about being stopped. -/
theorem declares_of_starts (starts : e.Starts) (shown : e.endpoint? presentation = some endpoint) :
    ∃ c, endpoint.capability? .scene = some c ∧
      c.toJson.field? "supportsDeactivation" = some (.bool e.offersStop) := by
  unfold Endpoint.capability?
  rw [capabilities_of_endpoint?_eq_some shown, capabilities_of_starts starts]
  refine ⟨_, rfl, ?_⟩
  cases e.offersStop <;> rfl

end Entity

theorem Settings.mem_endpoints {settings : Settings} {entities : List Entity} {e : Entity}
    {endpoint : Endpoint} (member : e ∈ entities) (exposed : settings.exposure.exposes e.id = true)
    (shown : e.endpoint? (settings.presentation? e.id) = some endpoint) :
    endpoint ∈ settings.endpoints entities :=
  List.mem_filterMap.2 ⟨e, List.mem_filter.2 ⟨member, exposed⟩, shown⟩

/-- The result lists the endpoint of an entity, whose interface of scenes declares whether it can be
deactivated. -/
def DeclaresDeactivation (settings : Settings) (e : Entity) (supported : Bool)
    (result : Except ProtocolError Response) : Prop :=
  ∃ endpoints endpoint c, Lists endpoints result ∧ endpoint ∈ endpoints ∧
    e.endpoint? (settings.presentation? e.id) = some endpoint ∧
    endpoint.capability? .scene = some c ∧
    c.toJson.field? "supportsDeactivation" = some (.bool supported)

namespace Request

variable {σ σ₀ : Type} {ports : Ports σ} {ports₀ : Ports σ₀} {s : σ} {s₀ : σ₀} {q q₀ : Request}
  {message discover : Json} {id : EndpointId} {e e₀ : Entity}

/-- Discovery declares of whoever can be started whether it offers to be stopped. -/
theorem declaresDeactivation {entities : List Entity} (starts : e.Starts) (member : e ∈ entities)
    (exposed : q.settings.exposure.exposes e.id = true) (read : ports.fetchAll s = .ok entities)
    (asked : Asks message .discover) :
    DeclaresDeactivation q.settings e e.offersStop ((q.handle message).run ports s).result := by
  obtain ⟨endpoint, shown⟩ := e.exists_endpoint?_of_starts starts (q.settings.presentation? e.id)
  obtain ⟨c, capability, declared⟩ := e.declares_of_starts starts shown
  exact ⟨_, endpoint, c, q.lists_of_fetchAll asked read, Settings.mem_endpoints member exposed shown,
    shown, capability, declared⟩

/-- Whoever asks to stop a scene or a script may control it. -/
theorem exists_authorised_deactivate {d : Directive} (starts : e.Starts)
    (exposed : q.settings.exposure.exposes e.id = true) (stored : ports.fetch s e.id = .ok (some e))
    (kind : d.kind? = some .deactivate) (named : d.target? = some e.id) :
    ∃ endpoint, q.Authorised (ports.store s) d .deactivate e.id e endpoint := by
  obtain ⟨endpoint, shown⟩ := e.exists_endpoint?_of_starts starts (q.settings.presentation? e.id)
  exact ⟨endpoint, kind, named, exposed, stored, shown, e.accepts_deactivate_of_starts starts shown⟩

/-- A script is stopped, and a scene is not, whatever attributes it has. -/
theorem deactivate_cases (starts : e.Starts) (exposed : q.settings.exposure.exposes e.id = true)
    (stored : ports.fetch s e.id = .ok (some e)) (asked : AsksAbout message .deactivate id)
    (leads : id.toEntityId = .ok e.id) :
    e.domain = .script ∧ q.Performs ports s message (.own e.id "turn_off") [] ∨
      e.domain = .scene ∧ q.Refuses ports s message "INVALID_DIRECTIVE" := by
  have route : DirectiveKind.deactivate.route = .control Control.deactivate := rfl
  obtain ⟨d, hd, kind, about⟩ := asked
  obtain ⟨endpoint, auth⟩ := exists_authorised_deactivate starts exposed stored kind
    (Directive.target?_of_leads about leads)
  rcases starts with scene | script
  · have refused : Control.deactivate (q.situation d e) = .error (.notDeactivatable e.id) := by
      refine if_neg ?_
      rw [show (q.situation d e).entity.domain = .scene from scene]
      decide
    exact .inr ⟨scene, auth.refuses hd route refused⟩
  · have decided : Control.deactivate (q.situation d e) =
        .ok (Control.started "DeactivationStarted" (q.situation d e) "turn_off") :=
      if_pos script
    exact .inl ⟨script, auth.performs hd route decided rfl⟩

/-- Every scene and script that is exposed is listed with an interface of scenes, which declares that
it can be deactivated exactly for a script with the attribute that says so. A directive to deactivate
it, at any later or earlier time and whatever its attributes are then, stops it when it is a script,
by one call, and is invalid when it is a scene. So what is offered is always done, and what is done is
what was offered, but for the scripts without the attribute: these are stopped though this was not
offered. -/
theorem deactivation_of_scripts {entities : List Entity} (same : e₀.id = e.id) (starts : e.Starts)
    (settings : q₀.settings = q.settings) (exposed : q.settings.exposure.exposes e.id = true)
    (read : ports₀.fetchAll s₀ = .ok entities) (listed : e₀ ∈ entities)
    (stored : ports.fetch s e.id = .ok (some e)) (discovers : Asks discover .discover)
    (asked : AsksAbout message .deactivate id) (leads : id.toEntityId = .ok e.id) :
    let calls := ((q.handle message).run ports s).calls
    DeclaresDeactivation q.settings e₀ e₀.offersStop ((q₀.handle discover).run ports₀ s₀).result ∧
    (e₀.offersStop = true ↔ e.domain = .script ∧ e₀.attributes.flag Key.canCancel = true) ∧
    (e.domain = .script → q.Performs ports s message (.own e.id "turn_off") []) ∧
    (e.domain = .scene → q.Refuses ports s message "INVALID_DIRECTIVE") ∧
    (calls = [(.own e.id "turn_off", q.context)] ↔ e.domain = .script) ∧
    (calls = [] ↔ e.domain = .scene) ∧
    ((calls = [(.own e.id "turn_off", q.context)] ↔ e₀.offersStop = true) ↔
      ¬(e.domain = .script ∧ e₀.attributes.flag Key.canCancel = false)) := by
  intro calls
  have domain : e₀.domain = e.domain := congrArg EntityId.domain same
  have declares : DeclaresDeactivation q₀.settings e₀ e₀.offersStop
      ((q₀.handle discover).run ports₀ s₀).result := by
    refine declaresDeactivation ?_ listed ?_ read discovers
    · exact (congrArg (fun d => d = Domain.scene ∨ d = .script) domain).mpr starts
    · rw [settings, same]
      exact exposed
  have offers : e₀.offersStop = true ↔ e.domain = .script ∧
      e₀.attributes.flag Key.canCancel = true := by
    rw [Entity.offersStop_iff, domain]
  refine ⟨settings ▸ declares, offers, ?_⟩
  rcases deactivate_cases starts exposed stored asked leads with
    ⟨script, performs⟩ | ⟨scene, refuses⟩
  · have made : calls = [(.own e.id "turn_off", q.context)] := performs.calls
    have notScene : e.domain ≠ .scene := by simp [script]
    refine ⟨fun _ => performs, fun scene => absurd scene notScene, iff_of_true made script,
      iff_of_false (made ▸ List.cons_ne_nil _ _) notScene, ?_⟩
    rw [offers]
    cases e₀.attributes.flag Key.canCancel <;> simp [made, script]
  · have made : calls = [] := refuses.calls
    have notScript : e.domain ≠ .script := by simp [scene]
    refine ⟨fun script => absurd script notScript, fun _ => refuses, iff_of_false ?_ notScript,
      iff_of_true made scene, ?_⟩
    · rw [made]
      exact (List.cons_ne_nil _ _).symm
    · rw [offers]
      simp [made, notScript]

end Request

/-- The script of the evening when it can be stopped by its attribute. -/
def Entity.longEvening : Entity :=
  { Entity.evening with attributes := ⟨[(Key.canCancel, .flag true)]⟩ }

/-- Asks to deactivate the script of the evening. -/
def Directive.deactivateEvening : Directive :=
  addressed "Alexa.SceneController" "Deactivate" Entity.evening.id

namespace Request

theorem asksAbout_deactivateEvening :
    AsksAbout Directive.deactivateEvening.envelope .deactivate (.ofEntityId Entity.evening.id) :=
  ⟨_, Directive.ofMessage_envelope_addressed _ _ _, rfl, rfl⟩

theorem toEntityId_evening :
    (EndpointId.ofEntityId Entity.evening.id).toEntityId = .ok Entity.evening.id :=
  EndpointId.toEntityId_ofEntityId (by decide +kernel)

/-- A script that was discovered while it could be stopped is stopped after it has lost the
attribute. -/
theorem deactivation_of_scripts_evening :
    let q := exposing .all
    let ports := Hub.ports ⟨1, 0⟩ .none
    let before := Hub.ofEntities [Entity.longEvening]
    let after := Hub.ofEntities [Entity.evening]
    Entity.longEvening.id = Entity.evening.id ∧ Entity.evening.Starts ∧
      before.get? Entity.evening.id = some Entity.longEvening ∧
      after.get? Entity.evening.id = some Entity.evening ∧
      DeclaresDeactivation q.settings .longEvening true
        ((q.handle Directive.discoverAll.envelope).run ports before).result ∧
      q.Performs ports after Directive.deactivateEvening.envelope
        (.own Entity.evening.id "turn_off") [] := by
  intro q ports before after
  have same : Entity.longEvening.id = Entity.evening.id := rfl
  have settings : q.settings = q.settings := rfl
  have read : ports.fetchAll before = .ok before.entities := rfl
  have stored : ports.fetch after Entity.evening.id = .ok (some Entity.evening) := rfl
  obtain ⟨declares, -, performs, -⟩ := deactivation_of_scripts same (.inr rfl) settings rfl read
    List.mem_cons_self stored Directive.asks_discoverAll asksAbout_deactivateEvening
    toEntityId_evening
  exact ⟨same, .inr rfl, rfl, rfl, declares, performs rfl⟩

/-- A script without attributes is stopped, though discovery declares that it cannot be. -/
theorem script_stopped_though_not_offered :
    let q := exposing .all
    let ports := Hub.ports ⟨1, 0⟩ .none
    let hub := Hub.ofEntities [Entity.evening]
    let discovered := ((q.handle Directive.discoverAll.envelope).run ports hub).result
    let calls := ((q.handle Directive.deactivateEvening.envelope).run ports hub).calls
    Entity.evening.domain = .script ∧ hub.get? Entity.evening.id = some Entity.evening ∧
      q.settings.exposure.exposes Entity.evening.id = true ∧
      DeclaresDeactivation q.settings .evening false discovered ∧
      calls = [(.own Entity.evening.id "turn_off", q.context)] ∧
      ¬∀ supported, DeclaresDeactivation q.settings .evening supported discovered →
        (calls = [(.own Entity.evening.id "turn_off", q.context)] ↔ supported = true) := by
  intro q ports hub discovered calls
  have exposed : q.settings.exposure.exposes Entity.evening.id = true := rfl
  have declares : DeclaresDeactivation q.settings .evening false discovered :=
    declaresDeactivation (.inr rfl) (List.mem_cons_self : Entity.evening ∈ hub.entities) exposed rfl
      Directive.asks_discoverAll
  have stored : ports.fetch hub Entity.evening.id = .ok (some Entity.evening) := rfl
  have made : calls = [(.own Entity.evening.id "turn_off", q.context)] := by
    rcases deactivate_cases (.inr rfl) exposed stored asksAbout_deactivateEvening
      toEntityId_evening with ⟨-, performs⟩ | ⟨scene, -⟩
    · exact performs.calls
    · cases scene
  refine ⟨rfl, rfl, exposed, declares, made, ?_⟩
  intro claimed
  cases (claimed false declares).1 made

end Request

end HomeVoice
