import HomeVoice.Proofs.Control.ReadBack
import HomeVoice.Proofs.Discovery.Agreement
import HomeVoice.Proofs.Handling.Dispatch

/-!
# Reading what was written

A directive that controls an entity is answered with what the state of the entity will be. When the
state of the entity is asked for next, the report says the same.
-/

namespace HomeVoice

namespace Request

variable {q : Request} {d : Directive} {k : DirectiveKind} {entity : Entity} {endpoint : Endpoint}
  {hub : Hub} {now : Timestamp} {response : Response}

/-- A hub that is in order answers an authorised directive as its control has decided. -/
theorem Authorised.resultOn
    (auth : q.Authorised ((Hub.ports now .none).store hub) d k entity.id entity endpoint)
    {message : Json} (hd : Directive.ofMessage message = .ok d)
    {judge : Situation → Except Refusal Outcome} (route : k.route = .control judge) {o : Outcome}
    (decided : judge (q.situation d entity) = .ok o) {c : ServiceCall} (called : o.call = some c)
    (bounded : hub.FiniteBounds) :
    q.resultOn now hub message = .ok (q.concluded d entity endpoint o) := by
  obtain ⟨_, -, -, served⟩ := auth.served (Control.decided_of_ok route decided) called bounded
  rw [resultOn_of_ok hd, auth.plan_of_ok route decided called]
  exact (finish_of_served served _).1

/-- How an entity has been controlled: what the directive has come to, and what the hub has in the
place of the entity. -/
structure Controlled (q : Request) (d : Directive) (k : DirectiveKind) (now : Timestamp)
    (hub hub' : Hub) (response : Response) (entity : Entity) (endpoint : Endpoint)
    (entity' : Entity) (readings : List Reading) : Prop where
  auth : q.Authorised ((Hub.ports now .none).store hub) d k entity.id entity endpoint
  effect : Control.Effect entity q.settings.unit readings entity'
  same : entity.SameDevice entity'
  stored : ∃ time, hub'.get? entity.id = some { entity' with lastUpdated := time }
  context : response.context =
    some (addReadings readings (entity.proactive q.settings.unit endpoint))

/-- A directive that controls and is not answered by an error has controlled an entity. -/
theorem exists_controlled {judge : Situation → Except Refusal Outcome} (kind : d.kind? = some k)
    (route : k.route = .control judge) (bounded : hub.FiniteBounds)
    (answered : (q.finish (Hub.ports now .none) d
      (q.plan ((Hub.ports now .none).store hub) d) hub).result = .ok response)
    (noError : response.name ≠ Response.errorName) :
    ∃ entity endpoint entity' readings,
      q.Controlled d k now hub (q.finish (Hub.ports now .none) d
        (q.plan ((Hub.ports now .none).store hub) d) hub).state response entity endpoint entity'
        readings := by
  have planned := q.planned_plan ((Hub.ports now .none).store hub) d
  generalize q.plan ((Hub.ports now .none).store hub) d = plan at planned answered ⊢
  have refused (refusal : Refusal) (h : response = Response.refuse q.stamp d refusal) : False := by
    rw [h] at noError
    exact noError rfl
  cases planned with
  | unknown other => cases kind.symm.trans other
  | storeFailed other | discovered other | reported other =>
    cases kind.symm.trans other
    cases route
  | notFound | notAccepted | refused =>
    cases answered
    exact (refused _ rfl).elim
  | @idle k' judge' entity endpoint o kind' route' found accepted decided uncalled =>
    cases kind.symm.trans kind'
    cases answered
    obtain ⟨id, auth⟩ := exists_authorised kind found accepted
    obtain ⟨member, rfl⟩ := auth.stored_in_hub
    have silent := (Control.decided_of_ok route' decided).readings_of_uncalled uncalled
    refine ⟨entity, endpoint, entity, [], auth, .kept, .refl entity,
      ⟨entity.lastUpdated, Hub.get?_of_ports_fetch auth.stored⟩, ?_⟩
    exact congrArg (fun readings => some (addReadings readings _)) silent
  | @called k' judge' entity endpoint o c kind' route' found accepted decided called =>
    cases kind.symm.trans kind'
    obtain ⟨id, auth⟩ := exists_authorised kind found accepted
    obtain ⟨member, rfl⟩ := auth.stored_in_hub
    obtain ⟨entity', effect, same, served⟩ :=
      auth.served (Control.decided_of_ok route' decided) called bounded
    obtain ⟨result, state⟩ := finish_of_served (q := q) (d := d) served
      (q.concluded d entity endpoint o)
    cases result.symm.trans answered
    refine ⟨entity, endpoint, entity', o.readings, auth, effect, same, ⟨now, ?_⟩, rfl⟩
    rw [state, Hub.get?_upsert, if_pos same.id]

/-- The state of an entity that has been controlled is reported. -/
theorem Controlled.reported {hub' : Hub} {entity' : Entity} {readings : List Reading}
    (controlled : q.Controlled d k now hub hub' response entity endpoint entity' readings)
    {q' : Request} (settings : q'.settings = q.settings) (now' : Timestamp) {d' : Directive}
    (named : d'.target? = some entity.id) (kind : d'.kind? = some .reportState) {message : Json}
    (read : Directive.ofMessage message = .ok d') :
    ∃ time, q'.resultOn now' hub' message =
      .ok (q'.reported d' { entity' with lastUpdated := time } endpoint) := by
  obtain ⟨time, stored⟩ := controlled.stored
  have shown := ((controlled.same.touched time).endpoint? _).trans controlled.auth.shown
  have exposed := controlled.auth.exposed
  rw [← settings] at shown exposed
  have found := lookUp_eq_ok.2 ⟨entity.id, named, exposed,
    show ((Hub.ports now' .none).store hub').fetch entity.id = _ from congrArg Except.ok stored,
    shown⟩
  refine ⟨time, ?_⟩
  rw [resultOn_of_ok read, plan_of_reportState kind found]
  rfl

/-- What the answer has said and can be read is read. -/
theorem Controlled.read? {hub' : Hub} {entity' : Entity} {readings : List Reading}
    (controlled : q.Controlled d k now hub hub' response entity endpoint entity' readings)
    {r : Reading} (said : r ∈ addReadings readings (entity.proactive q.settings.unit endpoint))
    (retrievable : r.interface.spec.retrievable = true) :
    ∃ value, entity'.read? r.interface r.name q.settings.unit = some value ∧
      entity.Confirms r value := by
  rcases mem_addReadings said with said | said
  · exact controlled.effect.read? controlled.same said retrievable
  · -- What is measured is told by thermostats, because sensors accept nothing.
    obtain ⟨sensor, ⟨c, listed, interface, -⟩, read⟩ := Entity.of_mem_proactive said
    have climate : entity.domain = .climate :=
      Entity.climate_of_measures controlled.auth.shown controlled.auth.accepted listed
        (interface.trans sensor)
    refine ⟨r.value, ?_, Entity.confirms_self (by simp [climate])⟩
    rw [sensor] at read ⊢
    rw [Control.read?_measured controlled.same climate]
    exact read

/-- An entity is controlled, and its state is asked for next. The report of its state says
everything that the answer has said of properties that the endpoint supports and lets read, and
what both say of a property is the same; but for the percentage of a fan, where the report says the
percentage of the speed that the answer's percentage selects. -/
theorem read_your_writes {q q' : Request} (settings : q'.settings = q.settings)
    (now now' : Timestamp) {hub : Hub} (bounded : hub.FiniteBounds) {k : DirectiveKind}
    {judge : Situation → Except Refusal Outcome} (route : k.route = .control judge)
    {id : EndpointId} {message message' : Json} (asked : AsksAbout message k id)
    (asks : AsksAbout message' .reportState id) {response : Response}
    (answered : q.resultOn now hub message = .ok response) (noError : response.isError = false) :
    let hub' := ((q.handle message).run (Hub.ports now .none) hub).state
    ∃ entity endpoint report told known,
      id.toEntityId = .ok entity.id ∧ hub.get? entity.id = some entity ∧
      entity.endpoint? (q.settings.presentation? entity.id) = some endpoint ∧
      q'.resultOn now' hub' message' = .ok report ∧ report.name = "StateReport" ∧
      response.context = some told ∧ report.context = some known ∧
      (∀ r ∈ told, r.interface.spec.retrievable = true → endpoint.Supports r →
        ∃ r' ∈ known, r.sameKey r' = true) ∧
      ∀ r ∈ told, ∀ r' ∈ known, r.sameKey r' = true → entity.Confirms r r'.value := by
  intro hub'
  obtain ⟨d, hd, kind, about⟩ := asked
  obtain ⟨d', hd', kind', about'⟩ := asks
  rw [resultOn_of_ok hd] at answered
  have name : response.name ≠ Response.errorName := of_decide_eq_false noError
  obtain ⟨entity, endpoint, entity', readings, controlled⟩ :=
    exists_controlled kind route bounded answered name
  have state : hub' = (q.finish (Hub.ports now .none) d
      (q.plan ((Hub.ports now .none).store hub) d) hub).state := by
    show ((q.handle message).run _ hub).state = _
    rw [run_handle_of_ok _ _ hd]
    rfl
  rw [← state] at controlled
  obtain ⟨ref, names, leads⟩ := Directive.target?_eq_some_iff.1 controlled.auth.named
  obtain rfl : ref.id = id := by
    rw [names] at about
    exact Option.some.inj about
  have named : d'.target? = some entity.id := Directive.target?_of_leads about' leads
  obtain ⟨time, reported⟩ := controlled.reported settings now' named kind' hd'
  refine ⟨entity, endpoint, _, _, _, leads, Hub.get?_of_ports_fetch controlled.auth.stored,
    controlled.auth.shown, reported, rfl, controlled.context, rfl, ?_, ?_⟩
  · intro r said retrievable supported
    obtain ⟨value, read, -⟩ := controlled.read? said retrievable
    refine ⟨⟨r.interface, r.name, value⟩, ?_, Reading.sameKey_iff.2 ⟨rfl, rfl⟩⟩
    rw [settings]
    exact Entity.mem_retrievable_iff.2 ⟨retrievable, supported, read⟩
  · intro r said r' found same
    obtain ⟨interface, name⟩ := Reading.sameKey_iff.1 same
    rw [settings] at found
    obtain ⟨retrievable, -, read'⟩ := Entity.mem_retrievable_iff.1 found
    rw [← interface] at retrievable read'
    rw [← name] at read'
    obtain ⟨value, read, confirms⟩ := controlled.read? said retrievable
    obtain rfl := Option.some.inj (read.symm.trans read')
    exact confirms

end Request

/-- A fan of two speeds that stands still. -/
def Entity.attic : Entity :=
  ⟨⟨"fan", "attic", by decide, by decide, by decide⟩, "off",
    ⟨[(Key.speedList, .json (.ofStrings ["low", "high"])), ("supported_features", .int 1)]⟩, ⟨0, 0⟩⟩

/-- Asks the fan for 30 percent. -/
def Directive.breezeAttic : Directive :=
  { addressed "Alexa.PercentageController" "SetPercentage" Entity.attic.id with
    payload := ⟨[("percentage", .int 30)]⟩ }

theorem Control.setPercentage_attic (now : Timestamp) :
    let s : Situation := ⟨.attic, Directive.breezeAttic.payload, .celsius, now⟩
    let call := (s.call "set_speed").withData Key.speed (.str (s.entity.speedTable.speedFor 30))
    setPercentage s = .ok (percentageAnswer call 30) := by
  intro s call
  have given : Directive.breezeAttic.payload.requireInt "percentage" = .ok 30 :=
    eq_ok_of_toOption (by decide +kernel)
  rw [setPercentage, Situation.percentArgument, given]
  rfl

/-- A fan of two speeds that is told to run at 30 percent says so, and is then found to run at 50
percent. -/
theorem Request.read_your_writes_attic :
    let q := exposing .all
    let hub := Hub.ofEntities [Entity.attic]
    let hub' := ((q.handle Directive.breezeAttic.envelope).run (Hub.ports ⟨1, 0⟩ .none) hub).state
    ∃ response report known,
      q.resultOn ⟨1, 0⟩ hub Directive.breezeAttic.envelope = .ok response ∧
      response.isError = false ∧
      response.context = some [⟨.percentage, "percentage", .int 30⟩] ∧
      q.resultOn ⟨2, 0⟩ hub'
        (Directive.addressed "Alexa" "ReportState" Entity.attic.id).envelope = .ok report ∧
      report.context = some known ∧ ∃ r ∈ known, r.name = "percentage" ∧ r.value = .int 50 := by
  intro q hub hub'
  have bounded : hub.FiniteBounds := by
    intro e member climate
    obtain rfl := List.mem_singleton.1 member
    cases climate
  have hd : Directive.ofMessage Directive.breezeAttic.envelope = .ok Directive.breezeAttic := by
    refine Directive.ofMessage_envelope rfl ?_
    rintro ref ⟨⟩
    rfl
  let endpoint := (Entity.attic.endpoint? none).get rfl
  have auth : q.Authorised ((Hub.ports ⟨1, 0⟩ .none).store hub) Directive.breezeAttic
      .setPercentage Entity.attic.id .attic endpoint :=
    ⟨rfl, rfl, rfl, rfl, rfl, rfl⟩
  have decided := Control.setPercentage_attic q.stamp.now
  have answered := auth.resultOn hd rfl decided rfl bounded
  have asks : AsksAbout (Directive.addressed "Alexa" "ReportState" Entity.attic.id).envelope
      .reportState (.ofEntityId Entity.attic.id) :=
    ⟨_, Directive.ofMessage_envelope_addressed "Alexa" "ReportState" _, rfl, rfl⟩
  obtain ⟨entity, endpoint', report, told, known, leads, stored, shown, reported, -, said, found,
    covered, confirmed⟩ := read_your_writes (rfl : q.settings = q.settings) ⟨1, 0⟩ ⟨2, 0⟩
      bounded rfl ⟨_, hd, rfl, rfl⟩ asks answered rfl
  have named : Entity.attic.id = entity.id := Except.ok.inj leads
  rw [← named] at stored shown
  obtain rfl : Entity.attic = entity := Option.some.inj stored
  obtain rfl : endpoint = endpoint' := Option.some.inj shown
  obtain rfl := Option.some.inj said
  have supported : endpoint.Supports ⟨.percentage, "percentage", .ofInt64 30⟩ :=
    ⟨.full .percentage, by decide +kernel, rfl, by decide +kernel⟩
  obtain ⟨r, member, same⟩ := covered _ List.mem_cons_self rfl supported
  have confirms := confirmed _ List.mem_cons_self r member same
  rw [Entity.Confirms, if_pos ⟨rfl, rfl⟩] at confirms
  obtain ⟨told, speed, thirty, selected, value⟩ := confirms
  obtain rfl : (30 : Int64) = told := Int64.toInt_inj.1 (Json.int.inj thirty)
  have fifty : Entity.attic.speedTable.percentageOf? (Entity.attic.speedTable.speedFor 30) =
      some 50 := by
    decide +kernel
  obtain rfl := Option.some.inj (fifty.symm.trans selected)
  exact ⟨_, report, known, answered, rfl, rfl, reported, found, r, member,
    (Reading.sameKey_iff.1 same).2.symm, value⟩

end HomeVoice
