import HomeVoice.Proofs.Discovery.Agreement
import HomeVoice.Proofs.Handling.Noninterference

/-!
# Presentation is no more than that

How the settings present single entities shows in what is listed when all endpoints are asked for,
and there in names, descriptions and categories only. Whether an entity can be addressed, what it
can be told and what is said of it is the same under any presentation.
-/

namespace HomeVoice

variable {σ : Type}

/-- The settings with single entities presented otherwise. -/
def Settings.presenting (s : Settings) (presentations : Dict Presentation) : Settings :=
  { s with presentations }

/-- The request under settings that present single entities otherwise. -/
def Request.presenting (q : Request) (presentations : Dict Presentation) : Request :=
  { q with settings := q.settings.presenting presentations }

/-- The endpoints that an entity becomes under two settings differ at most in how they are
presented, and not at all when neither presents the entity. -/
structure Settings.Rebrands (s s' : Settings) (e : Entity) (endpoint endpoint' : Endpoint) :
    Prop where
  made : e.endpoint? (s.presentation? e.id) = some endpoint
  made' : e.endpoint? (s'.presentation? e.id) = some endpoint'
  id : endpoint'.id = endpoint.id
  manufacturer : endpoint'.manufacturer = endpoint.manufacturer
  capabilities : endpoint'.capabilities = endpoint.capabilities
  unnamed : s.presentations.contains e.id.text = false →
    s'.presentations.contains e.id.text = false → endpoint' = endpoint

/-- What is seen of the handling of a message, but for the payload of the answer. -/
def Seen.withoutPayload (seen : Seen) : Seen :=
  { seen with result := seen.result.map fun response => response.withPayload [] }

/-! ## Endpoints -/

/-- Whether an entity becomes an endpoint does not depend on how it is presented, and neither does
what the endpoint can do. -/
theorem Entity.endpoint?_cases (e : Entity) (p p' : Option Presentation) :
    (e.endpoint? p = none ∧ e.endpoint? p' = none) ∨
      ∃ endpoint endpoint', e.endpoint? p = some endpoint ∧ e.endpoint? p' = some endpoint' ∧
        endpoint'.id = endpoint.id ∧ endpoint'.manufacturer = endpoint.manufacturer ∧
          endpoint'.capabilities = endpoint.capabilities := by
  unfold endpoint?
  cases e.category? with
  | none => exact .inl ⟨rfl, rfl⟩
  | some category =>
    cases e.capabilities with
    | nil => exact .inl ⟨rfl, rfl⟩
    | cons c rest => exact .inr ⟨_, _, rfl, rfl, rfl, rfl, rfl⟩

/-- What an endpoint accepts is up to its capabilities. -/
theorem Endpoint.accepts_congr {endpoint endpoint' : Endpoint}
    (same : endpoint'.capabilities = endpoint.capabilities) (k : DirectiveKind) :
    endpoint'.accepts k = endpoint.accepts k := by
  rw [accepts, interfaces, same]
  rfl

namespace Settings

theorem presentation?_eq_none {s : Settings} {id : EntityId}
    (unnamed : s.presentations.contains id.text = false) : s.presentation? id = none := by
  rw [Dict.contains] at unnamed
  exact Option.not_isSome_iff_eq_none.1 (Bool.eq_false_iff.1 unnamed)

/-- An entity becomes an endpoint under both settings or under none. -/
theorem rebrands_cases (s s' : Settings) (e : Entity) :
    (e.endpoint? (s.presentation? e.id) = none ∧ e.endpoint? (s'.presentation? e.id) = none) ∨
      ∃ endpoint endpoint', s.Rebrands s' e endpoint endpoint' := by
  rcases e.endpoint?_cases (s.presentation? e.id) (s'.presentation? e.id) with
    neither | ⟨endpoint, endpoint', made, made', id, manufacturer, capabilities⟩
  · exact .inl neither
  · refine .inr ⟨endpoint, endpoint', made, made', id, manufacturer, capabilities, ?_⟩
    intro unnamed unnamed'
    rw [presentation?_eq_none unnamed] at made
    rw [presentation?_eq_none unnamed'] at made'
    exact Option.some.inj (made'.symm.trans made)

/-- The same entities become endpoints under both settings, in the same order. -/
theorem forall₂_rebrands (s s' : Settings) (entities : List Entity) :
    List.Forall₂ (fun endpoint endpoint' => ∃ e ∈ entities, s.Rebrands s' e endpoint endpoint')
      (entities.filterMap fun e => e.endpoint? (s.presentation? e.id))
      (entities.filterMap fun e => e.endpoint? (s'.presentation? e.id)) := by
  induction entities with
  | nil => exact .nil
  | cons e rest ih =>
    have later : List.Forall₂
        (fun endpoint endpoint' => ∃ e' ∈ e :: rest, s.Rebrands s' e' endpoint endpoint') _ _ :=
      ih.imp fun _ _ => List.exists_mem_cons_of_exists
    rcases s.rebrands_cases s' e with ⟨made, made'⟩ | ⟨endpoint, endpoint', rebrands⟩
    · simp only [List.filterMap_cons, made, made']
      exact later
    · simp only [List.filterMap_cons, rebrands.made, rebrands.made']
      exact .cons ⟨e, List.mem_cons_self, rebrands⟩ later

/-- The same entities are listed, in the same order, however they are presented. -/
theorem forall₂_presenting (s : Settings) (presentations : Dict Presentation)
    (entities : List Entity) :
    List.Forall₂
      (fun endpoint endpoint' =>
        ∃ e ∈ entities, s.Rebrands (s.presenting presentations) e endpoint endpoint')
      (s.endpoints entities) ((s.presenting presentations).endpoints entities) := by
  have exposed := s.forall₂_rebrands (s.presenting presentations)
    (entities.filter fun e => s.exposure.exposes e.id)
  refine exposed.imp ?_
  rintro endpoint endpoint' ⟨e, member, rebrands⟩
  exact ⟨e, List.mem_of_mem_filter member, rebrands⟩

end Settings

/-! ## Plans -/

theorem Store.Agree.refl (x : Exposure) (store : Store) : store.Agree x store :=
  ⟨fun _ _ => rfl, rfl⟩

namespace Request

variable {q : Request} {store : Store} {d : Directive} {presentations : Dict Presentation}

/-- An entity is found however it is presented, and its endpoint can do the same. -/
theorem lookUp_presenting (q : Request) (presentations : Dict Presentation) (store : Store)
    (d : Directive) :
    (∃ refusal, q.lookUp store d = .error refusal ∧
      (q.presenting presentations).lookUp store d = .error refusal) ∨
    ∃ entity endpoint endpoint', q.lookUp store d = .ok (entity, endpoint) ∧
      (q.presenting presentations).lookUp store d = .ok (entity, endpoint') ∧
        endpoint'.capabilities = endpoint.capabilities := by
  have exposed : (q.presenting presentations).settings.exposure = q.settings.exposure := rfl
  unfold lookUp
  rw [exposed]
  cases d.endpoint with
  | none => exact .inl ⟨_, rfl, rfl⟩
  | some ref =>
    cases d.target? with
    | none => exact .inl ⟨_, rfl, rfl⟩
    | some id =>
      simp only
      cases q.settings.exposure.exposes id with
      | false => exact .inl ⟨_, rfl, rfl⟩
      | true =>
        simp only [if_true]
        rcases store.fetch id with e | _ | entity
        · exact .inl ⟨_, rfl, rfl⟩
        · exact .inl ⟨_, rfl, rfl⟩
        · simp only
          rcases entity.endpoint?_cases (q.settings.presentation? id)
              ((q.presenting presentations).settings.presentation? id) with
            ⟨made, made'⟩ | ⟨endpoint, endpoint', made, made', -, -, same⟩
          · rw [made, made']
            exact .inl ⟨_, rfl, rfl⟩
          · rw [made, made']
            exact .inr ⟨entity, endpoint, endpoint', rfl, rfl, same⟩

/-- What comes of an entity that is found is up to what its endpoint can do. -/
theorem ofFound_presenting {next next' : Entity → Endpoint → Plan}
    (same : ∀ entity endpoint endpoint', endpoint'.capabilities = endpoint.capabilities →
      next' entity endpoint' = next entity endpoint) :
    Plan.ofFound ((q.presenting presentations).lookUp store d) next' =
      Plan.ofFound (q.lookUp store d) next := by
  rcases q.lookUp_presenting presentations store d with
    ⟨refusal, found, found'⟩ | ⟨entity, endpoint, endpoint', found, found', capabilities⟩
  · rw [found, found']
    rfl
  · rw [found, found']
    exact same entity endpoint endpoint' capabilities

theorem reported_presenting {endpoint endpoint' : Endpoint}
    (same : endpoint'.capabilities = endpoint.capabilities) (entity : Entity) :
    (q.presenting presentations).reported d entity endpoint' = q.reported d entity endpoint := by
  rw [reported, reported, Entity.retrievable, same]
  rfl

theorem planControl_presenting {endpoint endpoint' : Endpoint}
    (same : endpoint'.capabilities = endpoint.capabilities) (k : DirectiveKind)
    (judge : Situation → Except Refusal Outcome) (entity : Entity) :
    (q.presenting presentations).planControl d k judge entity endpoint' =
      q.planControl d k judge entity endpoint := by
  have answer (outcome : Outcome) :
      (q.presenting presentations).concluded d entity endpoint' outcome =
        q.concluded d entity endpoint outcome := by
    rw [concluded, concluded, Entity.proactive, same]
    rfl
  have situation : (q.presenting presentations).situation d entity = q.situation d entity := rfl
  unfold planControl
  simp only [Endpoint.accepts_congr same, situation, answer]

/-- How entities are presented decides about nothing but the list of endpoints. -/
theorem plan_presenting (presentations : Dict Presentation)
    (unlisted : d.kind? ≠ some .discover ∨ ∃ e, store.fetchAll = .error e) :
    (q.presenting presentations).plan store d = q.plan store d := by
  unfold plan
  cases kind : d.kind? with
  | none => rfl
  | some k =>
    simp only
    cases route : k.route with
    | discover =>
      obtain rfl := DirectiveKind.eq_discover_of_route route
      obtain ⟨e, failed⟩ := unlisted.resolve_left (not_not_intro kind)
      rw [failed]
    | reportState =>
      refine ofFound_presenting ?_
      intro entity endpoint endpoint' same
      rw [reported_presenting same]
    | control judge =>
      refine ofFound_presenting ?_
      intro entity endpoint endpoint' same
      exact planControl_presenting same k judge entity

/-! ## Messages -/

variable {message : Json} {ports : Ports σ} {s : σ} {entities : List Entity}

/-- Where the same is planned, the same is seen. -/
theorem seen_presenting (hd : Directive.ofMessage message = .ok d) (stamp : Stamp)
    (unlisted : d.kind? ≠ some .discover ∨ ∃ e, ports.fetchAll s = .error e) :
    ((q.handle message).run ports s).seen =
      ((((q.presenting presentations).restamped stamp).handle message).run ports s).seen := by
  have planned : ((q.presenting presentations).restamped stamp).plan (ports.store s) d =
      (q.restamped stamp).plan (ports.store s) d :=
    (q.restamped stamp).plan_presenting presentations unlisted
  have agree : (ports.store s).Agree q.settings.exposure (ports.store s) := .refl _ _
  rw [q.run_handle_of_ok ports hd, run_handle_of_ok ports _ hd,
    seen_afterAll (q.isRead_of_mem_reads _ d), seen_afterAll (isRead_of_mem_reads _ _ d), planned]
  exact seen_finish (alike_plan agree stamp d) (fun _ _ => rfl) stamp

/-- The answers that list endpoints differ in their payloads only. -/
theorem seen_withoutPayload_presenting (asked : Asks message .discover)
    (read : ports.fetchAll s = .ok entities) (stamp : Stamp) :
    ((q.handle message).run ports s).seen.withoutPayload =
      ((((q.presenting presentations).restamped stamp).handle message).run
        ports s).seen.withoutPayload := by
  obtain ⟨d, hd, kind⟩ := asked
  have read : (ports.store s).fetchAll = .ok entities := read
  rw [q.run_handle_of_ok ports hd, run_handle_of_ok ports _ hd,
    seen_afterAll (q.isRead_of_mem_reads _ d), seen_afterAll (isRead_of_mem_reads _ _ d),
    plan_of_discover kind read, plan_of_discover kind read]
  rfl

/-- How single entities are presented is all that changes with the settings that say so. Every
message that does not ask for all endpoints gets the same answer, makes the same calls and leaves
the same event, but for fresh ids and the time. One that does ask gets the same when the store
cannot be read; otherwise all but the list is the same, and the lists have the endpoints of the
same entities in the same order, which differ at most in how they are presented. -/
theorem presentation_only (q : Request) (presentations : Dict Presentation) (stamp : Stamp)
    (ports : Ports σ) (s : σ) (message : Json) :
    let q' := (q.presenting presentations).restamped stamp
    let run := (q.handle message).run ports s
    let run' := (q'.handle message).run ports s
    (¬Asks message .discover → run.seen = run'.seen) ∧
      (∀ e, ports.fetchAll s = .error e → run.seen = run'.seen) ∧
      (Asks message .discover → ∀ entities, ports.fetchAll s = .ok entities →
        run.seen.withoutPayload = run'.seen.withoutPayload ∧
        Lists (q.settings.endpoints entities) run.result ∧
        Lists (q'.settings.endpoints entities) run'.result ∧
        List.Forall₂
          (fun endpoint endpoint' =>
            ∃ e ∈ entities, q.settings.Rebrands q'.settings e endpoint endpoint')
          (q.settings.endpoints entities) (q'.settings.endpoints entities)) := by
  intro q' run run'
  cases hd : Directive.ofMessage message with
  | error e =>
    have same : run.seen = run'.seen := by
      simp only [run, run', q.run_handle_of_error ports hd, q'.run_handle_of_error ports hd]
    refine ⟨fun _ => same, fun _ _ => same, ?_⟩
    rintro ⟨d, hd', -⟩
    cases hd.symm.trans hd'
  | ok d =>
    refine ⟨?_, ?_, ?_⟩
    · intro unasked
      exact seen_presenting hd stamp (.inl fun kind => unasked ⟨d, hd, kind⟩)
    · intro e failed
      exact seen_presenting hd stamp (.inr ⟨e, failed⟩)
    · intro asked entities read
      exact ⟨seen_withoutPayload_presenting asked read stamp, q.lists_of_fetchAll asked read,
        q'.lists_of_fetchAll asked read,
        q.settings.forall₂_presenting presentations entities⟩

end Request

/-- A light that is presented as a lamp is listed under another name, and is switched on as the
light that it is. -/
theorem Request.presentation_only_lamp :
    let q := exposing .all
    let q' := q.presenting [("light.desk", ⟨some "Lamp", none, none⟩)]
    let hub := Hub.ofEntities [Entity.desk]
    let run (q : Request) (message : Json) := (q.handle message).run (Hub.ports ⟨1, 0⟩ .none) hub
    let turnOn := (Directive.addressed "Alexa.PowerController" "TurnOn" Entity.desk.id).envelope
    let discover := Directive.discoverAll.envelope
    ((run q turnOn).calls ≠ [] ∧ (run q turnOn).seen = (run q' turnOn).seen) ∧
      (run q discover).seen.withoutPayload = (run q' discover).seen.withoutPayload ∧
      ∃ endpoint endpoint', Lists [endpoint] (run q discover).result ∧
        Lists [endpoint'] (run q' discover).result ∧ endpoint'.id = endpoint.id ∧
        endpoint.friendlyName = "desk" ∧ endpoint'.friendlyName = "Lamp" := by
  intro q q' hub run turnOn discover
  have laws := presentation_only q [("light.desk", ⟨some "Lamp", none, none⟩)] q.stamp
    (Hub.ports ⟨1, 0⟩ .none) hub
  have on : Directive.ofMessage turnOn = .ok _ :=
    Directive.ofMessage_envelope_addressed "Alexa.PowerController" "TurnOn" Entity.desk.id
  have unasked : ¬Asks turnOn .discover := by
    rintro ⟨d, hd, kind⟩
    cases hd.symm.trans on
    cases kind
  have called : (run q turnOn).calls ≠ [] := by
    simp only [run, q.run_handle_of_ok _ on, Run.calls_afterAll (q.isRead_of_mem_reads _ _),
      calls_finish]
    exact List.cons_ne_nil _ _
  obtain ⟨masked, lists, lists', -⟩ := (laws discover).2.2
    Directive.asks_discoverAll [Entity.desk] rfl
  exact ⟨⟨called, (laws turnOn).1 unasked⟩, masked, _, _, lists, lists', rfl, rfl, rfl⟩

end HomeVoice
