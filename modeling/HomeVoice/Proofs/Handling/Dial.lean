import HomeVoice.Proofs.Control.Dial
import HomeVoice.Proofs.Discovery.Agreement
import HomeVoice.Proofs.Handling.Context
import HomeVoice.Proofs.Handling.Reply

/-!
# Turning dials

A directive that changes a value by a difference is answered with the value that a report of the
state has at the same moment, changed by the difference over all integers and brought back between 0
and 100. Where the report has no value the directive fails inside, and nothing is called. On a
virtual hub this goes on: whatever differences are asked for one after another, the report keeps up
with them, because what is written in the units of the hub is read back as the same percentage. Fans
are the exception, which run at the speed that a percentage selects.
-/

namespace HomeVoice

/-- The value that an answer gives for a property. -/
def Response.value? (r : Response) (i : Interface) (name : String) : Option Json :=
  (r.context.bind fun readings => readings.find? fun x => x.interface = i ∧ x.name = name).map
    Reading.value

namespace Entity

variable {e : Entity} {presentation : Option Presentation} {endpoint : Endpoint}
  {k : DirectiveKind} {i : Interface} {name : String}

/-- An endpoint that accepts a directive supports all properties of the interface of the
directive, unless it is a thermostat. -/
theorem supports_of_accepts (made : e.endpoint? presentation = some endpoint)
    (accepted : endpoint.accepts k = true) (accepts : i.accepts k = true) (plain : i ≠ .thermostat)
    (listed : name ∈ i.spec.properties) (value : Json) : endpoint.Supports ⟨i, name, value⟩ := by
  obtain ⟨j, declared, accepts'⟩ := List.any_eq_true.1 accepted
  obtain rfl : j = i := Interface.eq_of_accepts accepts' accepts
  obtain ⟨c, declared, interface⟩ := List.mem_map.1 declared
  refine ⟨c, declared, interface, ?_⟩
  rw [capabilities_of_endpoint?_eq_some made] at declared
  rcases supported_cases declared with rfl | all
  · exact absurd interface.symm plain
  · rw [all, interface]
    exact listed

end Entity

namespace Request

variable {q : Request} {d : Directive} {entity : Entity} {endpoint : Endpoint}

/-- A report has for a property that can be read what is read of the entity. -/
theorem value?_reported {i : Interface} {name : String} (retrievable : i.spec.retrievable = true)
    (supports : ∀ value, endpoint.Supports ⟨i, name, value⟩) :
    (q.reported d entity endpoint).value? i name = entity.read? i name q.settings.unit := by
  show ((entity.retrievable q.settings.unit endpoint).find? _).map Reading.value = _
  cases found : (entity.retrievable q.settings.unit endpoint).find?
      fun x => x.interface = i ∧ x.name = name with
  | some r =>
    obtain ⟨-, -, read⟩ := Entity.mem_retrievable_iff.1 (List.mem_of_find?_eq_some found)
    have same := List.find?_some found
    simp only [decide_eq_true_eq] at same
    obtain ⟨rfl, rfl⟩ := same
    exact read.symm
  | none =>
    cases read : entity.read? i name q.settings.unit with
    | none => rfl
    | some value =>
      have member := Entity.mem_retrievable_iff.2 ⟨retrievable, supports value, read⟩
      exact absurd (by simp) (List.find?_eq_none.1 found _ member)

/-- The answer to a control has what the control says. -/
theorem value?_concluded {o : Outcome} {r : Reading} (said : o.readings = [r]) :
    (q.concluded d entity endpoint o).value? r.interface r.name = some r.value := by
  obtain ⟨others, readings⟩ :=
    prefix_addReadings o.readings (entity.proactive q.settings.unit endpoint)
  show ((addReadings o.readings _).find? _).map Reading.value = _
  rw [← readings, said, List.singleton_append, List.find?_cons_of_pos (by simp)]
  rfl

end Request

namespace Control.Dial

/-- The message asks an endpoint to turn the dial by a difference. -/
def Turns (dial : Dial) (message : Json) (id : EndpointId) (delta : Int64) : Prop :=
  ∃ d, Directive.ofMessage message = .ok d ∧ d.kind? = some dial.kind ∧
    d.endpoint.map EndpointRef.id = some id ∧ d.payload.requireInt dial.field = .ok delta

/-- The settings show an entity as an endpoint that has the dial. -/
structure Shown (dial : Dial) (settings : Settings) (e : Entity) (endpoint : Endpoint) : Prop where
  exposed : settings.exposure.exposes e.id = true
  made : e.endpoint? (settings.presentation? e.id) = some endpoint
  accepted : endpoint.accepts dial.kind = true

variable {dial : Dial} {settings : Settings} {e e' : Entity} {endpoint : Endpoint}
  {id : EndpointId} {delta : Int64} {message : Json}

theorem Shown.possible (shown : dial.Shown settings e endpoint) :
    e.domain ∈ dial.kind.domains :=
  Entity.domain_mem_of_accepts shown.made shown.accepted

theorem Shown.congr (shown : dial.Shown settings e endpoint) (same : e.SameDevice e') :
    dial.Shown settings e' endpoint := by
  constructor
  · rw [same.id]
    exact shown.exposed
  · rw [same.id, same.endpoint?]
    exact shown.made
  · exact shown.accepted

theorem Shown.supports (shown : dial.Shown settings e endpoint) (value : Json) :
    endpoint.Supports ⟨dial.interface, dial.property, value⟩ :=
  Entity.supports_of_accepts shown.made shown.accepted dial.accepts dial.interface_ne_thermostat
    dial.property_mem value

theorem Turns.authorised (turns : dial.Turns message id delta) (leads : id.toEntityId = .ok e.id)
    {q : Request} (shown : dial.Shown q.settings e endpoint) (store : Store)
    (stored : store.fetch e.id = .ok (some e)) :
    ∃ d, Directive.ofMessage message = .ok d ∧
      q.Authorised store d dial.kind e.id e endpoint ∧
      d.payload.requireInt dial.field = .ok delta := by
  obtain ⟨d, hd, kind, about, asked⟩ := turns
  exact ⟨d, hd, ⟨kind, Directive.target?_of_leads about leads, shown.exposed, stored, shown.made,
    shown.accepted⟩, asked⟩

/-- A report of the state has the value of the dial, if there is one. -/
theorem Shown.report {σ : Type} {q : Request} (shown : dial.Shown q.settings e endpoint)
    (ports : Ports σ) {s : σ} (leads : id.toEntityId = .ok e.id)
    (stored : ports.fetch s e.id = .ok (some e)) (asks : AsksAbout message .reportState id) :
    ∃ report, ((q.handle message).run ports s).result = .ok report ∧ report.name = "StateReport" ∧
      report.value? dial.interface dial.property = (dial.value? e).map .ofInt64 := by
  obtain ⟨d, hd, kind, about⟩ := asks
  have found : q.lookUp (ports.store s) d = .ok (e, endpoint) :=
    Request.lookUp_eq_ok.2
      ⟨e.id, Directive.target?_of_leads about leads, shown.exposed, stored, shown.made⟩
  refine ⟨q.reported d e endpoint, ?_, rfl, ?_⟩
  · rw [Request.result_handle_of_ok ports q hd, Request.plan_of_reportState kind found]
    rfl
  · rw [Request.value?_reported dial.retrievable shown.supports, dial.read?_eq]

/-- A dial that has a value is set to the value changed by the difference. -/
theorem Turns.answered {σ : Type} {ports : Ports σ} {s : σ} {q : Request}
    (turns : dial.Turns message id delta) (leads : id.toEntityId = .ok e.id)
    (shown : dial.Shown q.settings e endpoint) (stored : ports.fetch s e.id = .ok (some e))
    {value : Int64} (now : dial.value? e = some value) :
    ∃ c, ((q.handle message).run ports s).calls = [(c, q.context)] ∧
      ((ports.call s c q.context).1 = .ok () →
        ∃ response, ((q.handle message).run ports s).result = .ok response ∧
          response.isError = false ∧
          response.value? dial.interface dial.property =
            some (.ofInt64 (Percent.shift value delta))) := by
  obtain ⟨d, hd, auth, asked⟩ := turns.authorised leads shown (ports.store s) stored
  obtain ⟨o, c, decided, called, said⟩ :=
    judge_of_value (s := q.situation d e) shown.possible asked now
  obtain ⟨calls, result⟩ := auth.handle_of_ok hd dial.route decided called
  refine ⟨c, calls, fun accepted => ⟨_, result accepted, ?_, Request.value?_concluded said⟩⟩
  exact decide_eq_false (decided_of_ok dial.route decided).name_ne

/-- A dial that has no value is not turned. -/
theorem Turns.failed {σ : Type} {ports : Ports σ} {s : σ} {q : Request}
    (turns : dial.Turns message id delta) (leads : id.toEntityId = .ok e.id)
    (shown : dial.Shown q.settings e endpoint) (stored : ports.fetch s e.id = .ok (some e))
    (none : dial.value? e = none) :
    ((q.handle message).run ports s).calls = [] ∧
      InternalError ((q.handle message).run ports s).result := by
  obtain ⟨d, hd, auth, asked⟩ := turns.authorised leads shown (ports.store s) stored
  obtain ⟨fault, refused⟩ := internal_of_lacks (q.situation d e) dial.route
    (lacks_of_value shown.possible asked none)
  obtain ⟨calls, result⟩ := auth.handle_of_error hd dial.route refused
  refine ⟨calls, ?_⟩
  rw [result]
  exact internalError_refuse_iff.2 trivial

/-! ## One directive after another -/

/-- The message of an arrival that meets a hub in order asks an endpoint to turn the dial. -/
structure Arrives (dial : Dial) (id : EndpointId) (a : Arrival) (delta : Int64) : Prop where
  inOrder : a.outages = .none
  turns : dial.Turns a.message id delta

/-- When a dial is turned, what was read of it is read after it changed by the difference. -/
theorem Arrives.step {hub : Hub} {a : Arrival} (arrives : dial.Arrives id a delta)
    (leads : id.toEntityId = .ok e.id) (shown : dial.Shown settings e endpoint)
    (stored : hub.get? e.id = some e) (notFan : e.domain ≠ .fan) :
    ∃ e', (hub.after settings a).get? e.id = some e' ∧ e.SameDevice e' ∧
      dial.value? e' = (dial.value? e).map fun value => Percent.shift value delta := by
  obtain ⟨message, context, stamp, time, outages⟩ := a
  obtain ⟨rfl, turns⟩ := arrives
  let a : Arrival := ⟨message, context, stamp, time, .none⟩
  obtain ⟨d, hd, auth, asked⟩ := turns.authorised leads (q := a.request settings) shown
    (a.ports.store hub) (congrArg Except.ok stored)
  have changed : hub.after settings a =
      ((a.plan settings d hub).carryOut a.ports a.context hub).state := Hub.after_of_ok hd hub
  rw [changed, Arrival.plan]
  cases now : dial.value? e with
  | none =>
    obtain ⟨fault, refused⟩ := internal_of_lacks ((a.request settings).situation d e) dial.route
      (lacks_of_value shown.possible asked now)
    rw [auth.plan_of_error dial.route refused]
    exact ⟨e, stored, .refl e, now⟩
  | some value =>
    obtain ⟨o, c, decided, called, said⟩ :=
      judge_of_value (s := (a.request settings).situation d e) shown.possible asked now
    have notClimate : e.domain = .climate → e.FiniteBounds := fun climate =>
      absurd (climate ▸ shown.possible) dial.climate_notMem_domains
    obtain ⟨e', effect, same, served⟩ := auth.served_of_finiteBounds
      (decided_of_ok dial.route decided) called notClimate
    have touched := same.touched time
    refine ⟨{ e' with lastUpdated := time }, ?_, touched, ?_⟩
    · rw [auth.plan_of_ok dial.route decided called]
      show (((Hub.ports time .none).call hub c context).2).get? e.id = _
      rw [Hub.ports_call_of_ok served, Hub.get?_upsert, if_pos same.id]
    · rw [said] at effect
      rw [dial.value?_touched, value?_of_effect effect same notFan]
      rfl

/-- When a dial is turned again and again, what was read of it is read after all changes. -/
theorem exists_afterAll {arrivals : List Arrival} {deltas : List Int64}
    (arrive : List.Forall₂ (dial.Arrives id) arrivals deltas) {hub : Hub}
    (leads : id.toEntityId = .ok e.id) (shown : dial.Shown settings e endpoint)
    (stored : hub.get? e.id = some e) (notFan : e.domain ≠ .fan) :
    ∃ e', (hub.afterAll settings arrivals).get? e.id = some e' ∧ e'.id = e.id ∧
      dial.Shown settings e' endpoint ∧
      dial.value? e' = (dial.value? e).map fun value => deltas.foldl Percent.shift value := by
  induction arrive generalizing hub e with
  | nil => exact ⟨e, stored, rfl, shown, Option.map_id'.symm⟩
  | @cons a delta arrivals deltas arrives rest ih =>
    obtain ⟨e₁, stored₁, same, value₁⟩ := arrives.step leads shown stored notFan
    rw [← same.id] at leads stored₁
    have notFan₁ : e₁.domain ≠ .fan := fun fan => notFan (same.domain.symm.trans fan)
    obtain ⟨e', stored', id, shown', value'⟩ := ih leads (shown.congr same) stored₁ notFan₁
    refine ⟨e', same.id ▸ stored', id.trans same.id, shown', ?_⟩
    rw [value', value₁, Option.map_map]
    rfl

/-- Turning a dial is relative to what is reported, exactly. What is read of an entity that can have
the dial is an integer or nothing. In the first case the decision is to make one call and to say the
sum of the integer and the difference, over all integers and brought back between 0 and 100; in the
second it is an internal failure. So it is with messages: of a directive that turns the dial and a
report of the state at the same moment the report has the integer and the answer has the sum, or the
report has none and the directive makes no call and fails inside. And on a virtual hub, after any
number of such directives to one light, cover or player, the report has the value that it had
before, after one such sum for each of them; if it had none it still has none. -/
theorem turns_from_report (dial : Dial) :
    (∀ (s : Situation) (delta : Int64), s.entity.domain ∈ dial.kind.domains →
        s.payload.requireInt dial.field = .ok delta →
      (∀ value, s.entity.read? dial.interface dial.property s.unit = some value →
        ∃ (r : Int) (o : Outcome) (c : ServiceCall), value = .int r ∧ dial.judge s = .ok o ∧
          o.call = some c ∧ o.readings =
            [⟨dial.interface, dial.property, .int (max 0 (min 100 (r + delta.toInt)))⟩]) ∧
      (s.entity.read? dial.interface dial.property s.unit = none →
        ∃ fault, dial.judge s = .error (.internal fault))) ∧
    ∀ (settings : Settings) (e : Entity) (endpoint : Endpoint) (id : EndpointId),
        dial.Shown settings e endpoint → id.toEntityId = .ok e.id →
      (∀ {σ : Type} (ports : Ports σ) (s : σ) (q q' : Request) (message message' : Json)
          (delta : Int64), q.settings = settings → q'.settings = settings →
          ports.fetch s e.id = .ok (some e) → dial.Turns message id delta →
          AsksAbout message' .reportState id →
        let run := (q.handle message).run ports s
        ∃ report, ((q'.handle message').run ports s).result = .ok report ∧
          report.name = "StateReport" ∧
          (∀ value, report.value? dial.interface dial.property = some value →
            ∃ (r : Int) (c : ServiceCall), value = .int r ∧ run.calls = [(c, q.context)] ∧
              ((ports.call s c q.context).1 = .ok () →
                ∃ response, run.result = .ok response ∧ response.isError = false ∧
                  response.value? dial.interface dial.property =
                    some (.int (max 0 (min 100 (r + delta.toInt)))))) ∧
          (report.value? dial.interface dial.property = none →
            run.calls = [] ∧ InternalError run.result)) ∧
      ∀ (hub : Hub) (arrivals : List Arrival) (deltas : List Int64), hub.get? e.id = some e →
          e.domain ≠ .fan → List.Forall₂ (dial.Arrives id) arrivals deltas →
        ∀ (q : Request) (message : Json) (now now' : Timestamp), q.settings = settings →
          AsksAbout message .reportState id →
        ∃ before after, q.resultOn now hub message = .ok before ∧ before.name = "StateReport" ∧
          q.resultOn now' (hub.afterAll settings arrivals) message = .ok after ∧
          after.name = "StateReport" ∧
          ∃ r : Option Int,
            before.value? dial.interface dial.property = r.map .int ∧
            after.value? dial.interface dial.property = r.map fun r =>
              .int (deltas.foldl (fun r delta => max 0 (min 100 (r + delta.toInt))) r) := by
  refine ⟨?_, fun settings e endpoint id shown leads => ⟨?_, ?_⟩⟩
  · intro s delta possible asked
    rw [dial.read?_eq]
    constructor
    · intro value read
      obtain ⟨r, now, rfl⟩ := Option.map_eq_some_iff.1 read
      obtain ⟨o, c, decided, called, said⟩ := judge_of_value possible asked now
      refine ⟨r.toInt, o, c, rfl, decided, called, ?_⟩
      rw [said, reading, ← Percent.toInt_shift]
      rfl
    · intro none
      have none := Option.map_eq_none_iff.1 none
      exact internal_of_lacks s dial.route (lacks_of_value possible asked none)
  · rintro σ ports s q q' message message' delta rfl settings stored turns asks run
    obtain ⟨report, reported, name, known⟩ := (settings ▸ shown).report ports leads stored asks
    refine ⟨report, reported, name, ?_, ?_⟩
    · intro value given
      rw [known] at given
      obtain ⟨r, now, rfl⟩ := Option.map_eq_some_iff.1 given
      obtain ⟨c, calls, answered⟩ := turns.answered leads shown stored now
      refine ⟨r.toInt, c, rfl, calls, fun accepted => ?_⟩
      rw [← Percent.toInt_shift]
      exact answered accepted
    · intro none
      rw [known] at none
      exact turns.failed leads shown stored (Option.map_eq_none_iff.1 none)
  · rintro hub arrivals deltas stored notFan arrive q message now now' rfl asks
    obtain ⟨e', stored', id, shown', value'⟩ := exists_afterAll arrive leads shown stored notFan
    obtain ⟨before, reported, name, known⟩ := shown.report (Hub.ports now .none) leads
      (congrArg Except.ok stored) asks
    obtain ⟨after, reported', name', known'⟩ := shown'.report (Hub.ports now' .none)
      (id.symm ▸ leads) (congrArg Except.ok (id.symm ▸ stored')) asks
    refine ⟨before, after, reported, name, reported', name',
      (dial.value? e).map Int64.toInt, ?_, ?_⟩
    · rw [known, Option.map_map]
      rfl
    · rw [known', value', Option.map_map, Option.map_map]
      congr 1
      funext value
      exact congrArg Json.int (Percent.toInt_foldl_shift value deltas)

end Control.Dial

/-- A player at 30 percent. -/
def Entity.den : Entity :=
  ⟨⟨"media_player", "den", by decide, by decide, by decide⟩, "playing",
    ⟨[("supported_features", .int 4), (Key.volumeLevel, .number 0.3)]⟩, ⟨0, 0⟩⟩

/-- Asks the player for a change of its volume. -/
def Directive.turnDen (delta : Int) : Directive :=
  { addressed "Alexa.Speaker" "AdjustVolume" Entity.den.id with
    payload := ⟨[("volume", .int delta)]⟩ }

namespace Control.Dial

theorem turns_turnDen {delta : Int} {n : Int64}
    (asked : (Directive.turnDen delta).payload.requireInt "volume" = .ok n) :
    volume.Turns (Directive.turnDen delta).envelope (.ofEntityId Entity.den.id) n :=
  ⟨Directive.turnDen delta, Directive.ofMessage_envelope_of_plain rfl rfl, rfl, rfl, asked⟩

/-- A player at 30 percent that is turned up by 90 and down by 20 is at 80 percent. -/
theorem turns_from_report_den :
    let q := Request.exposing .all
    let hub := Hub.ofEntities [Entity.den]
    let arrive (delta : Int) : Arrival :=
      ⟨(Directive.turnDen delta).envelope, ⟨.zero, none⟩, ⟨.zero, .zero, ⟨1, 0⟩⟩, ⟨1, 0⟩, .none⟩
    let asks := (Directive.addressed "Alexa" "ReportState" Entity.den.id).envelope
    ∃ before after,
      q.resultOn ⟨1, 0⟩ hub asks = .ok before ∧
      before.value? .speaker "volume" = some (.int 30) ∧
      q.resultOn ⟨2, 0⟩ (hub.afterAll q.settings [arrive 90, arrive (-20)]) asks = .ok after ∧
      after.value? .speaker "volume" = some (.int 80) := by
  intro q hub arrive asks
  let endpoint := (Entity.den.endpoint? none).get rfl
  have shown : volume.Shown q.settings .den endpoint := ⟨rfl, rfl, rfl⟩
  have leads : (EndpointId.ofEntityId Entity.den.id).toEntityId = .ok Entity.den.id := rfl
  have up : (Directive.turnDen 90).payload.requireInt "volume" = .ok 90 :=
    eq_ok_of_toOption (by decide +kernel)
  have down : (Directive.turnDen (-20)).payload.requireInt "volume" = .ok (-20) :=
    eq_ok_of_toOption (by decide +kernel)
  have asked : AsksAbout asks .reportState (.ofEntityId Entity.den.id) :=
    ⟨_, Directive.ofMessage_envelope_addressed "Alexa" "ReportState" _, rfl, rfl⟩
  obtain ⟨before, after, reported, -, reported', -, r, known, known'⟩ :=
    ((turns_from_report volume).2 q.settings .den endpoint _ shown leads).2 hub
      [arrive 90, arrive (-20)] [90, -20] rfl (by decide)
      (.cons ⟨rfl, turns_turnDen up⟩ (.cons ⟨rfl, turns_turnDen down⟩ .nil)) q asks ⟨1, 0⟩ ⟨2, 0⟩
      rfl asked
  have thirty : volume.value? .den = some 30 := by decide +kernel
  obtain ⟨report, reads, -, value⟩ :=
    shown.report (Hub.ports ⟨1, 0⟩ .none) (s := hub) leads rfl asked
  obtain rfl : before = report := Except.ok.inj (reported.symm.trans reads)
  rw [thirty] at value
  obtain ⟨n, rfl, same⟩ := Option.map_eq_some_iff.1 (known.symm.trans value)
  obtain rfl : n = 30 := Json.int.inj same
  exact ⟨before, after, reported, known, reported', known'⟩

end Control.Dial

end HomeVoice
