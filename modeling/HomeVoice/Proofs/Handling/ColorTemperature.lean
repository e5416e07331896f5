import HomeVoice.Proofs.Control.ColorTemperature
import HomeVoice.Proofs.Handling.Decision
import HomeVoice.Proofs.Handling.Dial

/-!
# Stepping the color temperature

A directive that makes a light colder or warmer sends the mireds that are one step on, or is
refused when these are not above zero. On a virtual hub a light between two bounds above zero stays
between them, whatever steps are asked for, and every answer says the kelvins of what is then
stored.
-/

namespace HomeVoice

/-- An answer has for a property what stands first in it. -/
theorem Response.value?_of_prefix {response : Response} {all : List Reading} {r : Reading}
    (context : response.context = some all) (first : [r] <+: all) :
    response.value? r.interface r.name = some r.value := by
  obtain ⟨others, rfl⟩ := first
  rw [value?, context, Option.bind_some, List.singleton_append,
    List.find?_cons_of_pos (by simp)]
  rfl

namespace Control.WhiteStep

/-- The settings show an entity as an endpoint that can be made colder and warmer. -/
structure Shown (settings : Settings) (e : Entity) (endpoint : Endpoint) : Prop where
  exposed : settings.exposure.exposes e.id = true
  made : e.endpoint? (settings.presentation? e.id) = some endpoint
  accepted : ∀ step : WhiteStep, endpoint.accepts step.kind = true

/-- The message of an arrival that meets a hub in order asks an endpoint for a step. -/
structure Arrives (id : EndpointId) (a : Arrival) (step : WhiteStep) : Prop where
  inOrder : a.outages = .none
  asks : AsksAbout a.message step.kind id

/-- The hub has a light at some mireds, which is shown as an endpoint. -/
def Lit (settings : Settings) (id : EntityId) (endpoint : Endpoint) (least greatest : Int)
    (hub : Hub) (current : Int) : Prop :=
  ∃ e, hub.get? id = some e ∧ Shown settings e endpoint ∧ White e least greatest current

/-- A reply is no error and says some mireds, in kelvins. -/
def Says (reply : Except ProtocolError Response) (mireds : Int) : Prop :=
  ∃ response kelvin, reply = .ok response ∧ response.isError = false ∧
    Color.miredToKelvin (.ofInt mireds) = .ok kelvin ∧
    response.value? .colorTemperature "colorTemperatureInKelvin" = some (.ofInt64 kelvin)

variable {settings : Settings} {e e' : Entity} {endpoint : Endpoint} {id : EndpointId}
  {entityId : EntityId} {step : WhiteStep} {a : Arrival} {hub : Hub} {least greatest current : Int}

theorem Shown.congr (shown : Shown settings e endpoint) (same : e.SameDevice e') :
    Shown settings e' endpoint := by
  refine ⟨?_, ?_, shown.accepted⟩
  · rw [same.id]
    exact shown.exposed
  · rw [same.id, same.endpoint?]
    exact shown.made

/-- What performs a step says it when the call is accepted. -/
theorem said_of_performs {σ : Type} {ports : Ports σ} {st : σ} {q : Request} {message : Json}
    {s : Situation} {mireds : Int} {o : Outcome} {c : ServiceCall} (whitens : Whitens s mireds o)
    (performs : q.Performs ports st message c o.readings)
    (accepted : (ports.call st c q.context).1 = .ok ()) :
    Says ((q.handle message).run ports st).result mireds := by
  obtain ⟨response, all, result, fine, context, first⟩ := performs.answer accepted
  obtain ⟨kelvin, back, readings⟩ := whitens.readings
  rw [readings] at first
  exact ⟨response, kelvin, result, fine, back, Response.value?_of_prefix context first⟩

/-- A step that comes to mireds above zero is taken, and said. -/
theorem Arrives.taken (arrives : Arrives id a step) (leads : id.toEntityId = .ok entityId)
    (lit : Lit settings entityId endpoint least greatest hub current)
    (positive : 0 < next least greatest current step) :
    Lit settings entityId endpoint least greatest (hub.after settings a)
        (next least greatest current step) ∧
      Says (hub.reply settings a) (next least greatest current step) := by
  obtain ⟨message, context, stamp, time, outages⟩ := a
  obtain ⟨rfl, d, hd, kind, about⟩ := arrives
  obtain ⟨e, stored, shown, white⟩ := lit
  obtain rfl : e.id = entityId := (Hub.get?_eq_some_iff.1 stored).2
  let a : Arrival := ⟨message, context, stamp, time, .none⟩
  have auth : (a.request settings).Authorised (a.ports.store hub) d step.kind e.id e endpoint :=
    ⟨kind, Directive.target?_of_leads about leads, shown.exposed, congrArg Except.ok stored,
      shown.made, shown.accepted step⟩
  obtain ⟨last, ends, same⟩ := white.mireds?_bound step
  rw [← same] at positive ⊢
  rcases judge_cases (s := (a.request settings).situation d e) white.light white.current ends with
    ⟨-, o, decided, whitens⟩ | ⟨nonpos, -⟩
  · obtain ⟨mireds, fits⟩ := whitens.fits
    obtain ⟨e', served, device, white'⟩ := white.serve mireds
    rw [fits] at served white'
    obtain ⟨c, called, made⟩ : ∃ c, o.call = some c ∧
        hub.call c time = .ok (hub.upsert { e' with lastUpdated := time }) := by
      refine ⟨_, whitens.called, Hub.call_of_serve stored (.inl ?_) served⟩
      rw [EntityId.domainName_eq]
      exact (congrArg Domain.name white.light).symm
    have changed : hub.after settings a =
        ((a.plan settings d hub).carryOut a.ports a.context hub).state := Hub.after_of_ok hd hub
    have answered := Hub.ports_call_of_ok made a.context
    constructor
    · have stored' : (hub.after settings a).get? e.id = some { e' with lastUpdated := time } := by
        rw [changed, Arrival.plan, auth.plan_of_ok step.route decided called]
        show (((Hub.ports time .none).call hub c context).2).get? e.id = _
        rw [answered, Hub.get?_upsert, if_pos device.id]
      exact ⟨_, stored', shown.congr (device.touched time),
        ⟨white'.light, white'.least, white'.greatest, white'.current⟩⟩
    · have performs := auth.performs hd step.route decided called
      exact said_of_performs whitens performs (congrArg Prod.fst answered)
  · exact absurd nonpos (Int.not_le.2 positive)

/-! ## One directive after another -/

/-- After any steps the light is where they lead over all integers. -/
theorem lit_afterAll {arrivals : List Arrival} {steps : List WhiteStep}
    (arrive : List.Forall₂ (Arrives id) arrivals steps) (leads : id.toEntityId = .ok entityId)
    (lit : Lit settings entityId endpoint least greatest hub current) (positive : 0 < least)
    (low : least ≤ current) (high : current ≤ greatest) :
    Lit settings entityId endpoint least greatest (hub.afterAll settings arrivals)
      (steps.foldl (next least greatest) current) := by
  induction arrive generalizing hub current with
  | nil => exact lit
  | @cons a step arrivals steps arrives rest ih =>
    obtain ⟨low', high'⟩ := next_within low high step
    obtain ⟨lit', -⟩ := arrives.taken leads lit (by omega)
    exact ih lit' low' high'

/-- Every reply says what the light is at when it is given. -/
theorem said_of_replies {arrivals : List Arrival} {steps : List WhiteStep}
    (arrive : List.Forall₂ (Arrives id) arrivals steps) (leads : id.toEntityId = .ok entityId)
    (lit : Lit settings entityId endpoint least greatest hub current) (positive : 0 < least)
    (low : least ≤ current) (high : current ≤ greatest) (n : Nat) (inside : n < steps.length) :
    ∃ reply, (hub.replies settings arrivals)[n]? = some reply ∧
      Says reply ((steps.take (n + 1)).foldl (next least greatest) current) := by
  induction arrive generalizing hub current n with
  | nil => cases inside
  | @cons a step arrivals steps arrives rest ih =>
    obtain ⟨low', high'⟩ := next_within low high step
    obtain ⟨lit', said⟩ := arrives.taken leads lit (by omega)
    cases n with
    | zero => exact ⟨_, rfl, said⟩
    | succ n => exact ih lit' low' high' n (Nat.lt_of_succ_lt_succ inside)

/-- Stepping the color temperature, for every light with whole mireds. A step sends the mireds one
step on, as they are over all integers, and says them in kelvins, unless they are not above zero:
then it is out of range, and nothing is sent. So it is with messages that may control the light. On
a virtual hub a light between bounds above zero is, after any number of steps in one direction, as
many steps on or at the bound; after any steps it is between the bounds; and the reply to each of
them is no error and says what the light is at by then. -/
theorem white_steps :
    (∀ (step : WhiteStep) (s : Situation) (last current : Int), s.entity.domain = .light →
        s.entity.mireds? Key.colorTemperature = some current →
        s.entity.mireds? step.bound = some last →
      let mireds := step.mireds last current
      (0 < mireds → ∃ o, step.judge s = .ok o ∧ Whitens s mireds o) ∧
      (mireds ≤ 0 → ∃ r, step.judge s = .error r ∧ r.kind = "VALUE_OUT_OF_RANGE") ∧
      ∀ {σ : Type} (ports : Ports σ) (st : σ) (q : Request) (message : Json) (d : Directive)
          (id : EntityId) (endpoint : Endpoint), Directive.ofMessage message = .ok d →
          q.Authorised (ports.store st) d step.kind id s.entity endpoint →
          q.situation d s.entity = s →
        (0 < mireds → ∃ o c, Whitens s mireds o ∧ o.call = some c ∧
          q.Performs ports st message c o.readings) ∧
        (mireds ≤ 0 → q.Refuses ports st message "VALUE_OUT_OF_RANGE")) ∧
    ∀ (settings : Settings) (e : Entity) (endpoint : Endpoint) (id : EndpointId) (hub : Hub)
        (least greatest current : Int), id.toEntityId = .ok e.id → hub.get? e.id = some e →
        Shown settings e endpoint → White e least greatest current →
        1 ≤ least → least ≤ current → current ≤ greatest →
      let litAt (arrivals : List Arrival) (mireds : Int) : Prop :=
        Lit settings e.id endpoint least greatest (hub.afterAll settings arrivals) mireds
      (∀ (k : Nat) (arrivals : List Arrival),
        List.Forall₂ (Arrives id) arrivals (List.replicate k colder) →
          litAt arrivals (max least (current - 50 * k))) ∧
      (∀ (k : Nat) (arrivals : List Arrival),
        List.Forall₂ (Arrives id) arrivals (List.replicate k warmer) →
          litAt arrivals (min greatest (current + 50 * k))) ∧
      ∀ (arrivals : List Arrival) (steps : List WhiteStep),
        List.Forall₂ (Arrives id) arrivals steps →
        ∀ n < arrivals.length, ∃ mireds reply, least ≤ mireds ∧ mireds ≤ greatest ∧
          litAt (arrivals.take (n + 1)) mireds ∧
          (hub.replies settings arrivals)[n]? = some reply ∧ Says reply mireds := by
  constructor
  · intro step s last current light now ends mireds
    rcases judge_cases light now ends with
      ⟨positive, o, decided, whitens⟩ | ⟨nonpos, r, refused, kind⟩
    · refine ⟨fun _ => ⟨o, decided, whitens⟩, fun nonpos => absurd nonpos (Int.not_le.2 positive),
        ?_⟩
      intro σ ports st q message d id endpoint hd auth same
      refine ⟨fun _ => ⟨o, _, whitens, whitens.called, ?_⟩,
        fun nonpos => absurd nonpos (Int.not_le.2 positive)⟩
      exact auth.performs hd step.route (same.symm ▸ decided) whitens.called
    · refine ⟨fun positive => absurd nonpos (Int.not_le.2 positive), fun _ => ⟨r, refused, kind⟩,
        ?_⟩
      intro σ ports st q message d id endpoint hd auth same
      refine ⟨fun positive => absurd nonpos (Int.not_le.2 positive), fun _ => ?_⟩
      rw [← kind]
      exact auth.refuses hd step.route (same.symm ▸ refused)
  · intro settings e endpoint id hub least greatest current leads stored shown white one low high litAt
    have lit : Lit settings e.id endpoint least greatest hub current := ⟨e, stored, shown, white⟩
    have reached {arrivals : List Arrival} {steps : List WhiteStep}
        (arrive : List.Forall₂ (Arrives id) arrivals steps) :
        litAt arrivals (steps.foldl (next least greatest) current) :=
      lit_afterAll arrive leads lit one low high
    refine ⟨?_, ?_, ?_⟩
    · intro k arrivals arrive
      rw [← foldl_next_colder greatest low k]
      exact reached arrive
    · intro k arrivals arrive
      rw [← foldl_next_warmer least high k]
      exact reached arrive
    · intro arrivals steps arrive n inside
      obtain ⟨low', high'⟩ := foldl_next_within low high (steps.take (n + 1))
      obtain ⟨reply, given, said⟩ :=
        said_of_replies arrive leads lit one low high n (arrive.length_eq ▸ inside)
      exact ⟨_, reply, low', high', reached (List.forall₂_take (n + 1) arrive), given, said⟩

end Control.WhiteStep

/-- The light with a white of 200 mireds, between 153 and 500. -/
def Entity.bench : Entity :=
  ⟨⟨Domain.light.name, "bench", by decide, by decide, by decide⟩, "on",
    ⟨[(Key.colorTemperature, .int 200), (Key.maxMireds, .int 500), (Key.minMireds, .int 153),
      ("supported_features", .int 2)]⟩, ⟨0, 0⟩⟩

/-- The light with bounds that make no sense. -/
def Entity.coldBench : Entity :=
  { Entity.bench with
    attributes := ⟨[(Key.colorTemperature, .int 40), (Key.minMireds, .int (-100)),
      ("supported_features", .int 2)]⟩ }

/-- Asks the light for a step. -/
def Directive.stepBench (step : Control.WhiteStep) : Directive :=
  addressed "Alexa.ColorTemperatureController" step.kind.name Entity.bench.id

namespace Control.WhiteStep

/-- A light at 200 mireds is at its bound after two steps down, and a step up after one of them is
said as what the light then has. A light at 40 mireds is not made colder by fifty. -/
theorem white_steps_bench :
    let q := Request.exposing .all
    let hub := Hub.ofEntities [Entity.bench]
    let arrive (step : WhiteStep) : Arrival :=
      ⟨(Directive.stepBench step).envelope, ⟨.zero, none⟩, ⟨.zero, .zero, ⟨1, 0⟩⟩, ⟨1, 0⟩, .none⟩
    let endpoint := (Entity.bench.endpoint? none).get rfl
    let arrivals := [arrive colder, arrive warmer]
    Lit q.settings Entity.bench.id endpoint 153 500
        (hub.afterAll q.settings [arrive colder, arrive colder]) 153 ∧
      (∃ mireds reply, 153 ≤ mireds ∧ mireds ≤ 500 ∧
        Lit q.settings Entity.bench.id endpoint 153 500 (hub.afterAll q.settings arrivals) mireds ∧
        (hub.replies q.settings arrivals)[1]? = some reply ∧ Says reply mireds) ∧
      q.Refuses (Hub.ports ⟨1, 0⟩ .none) (Hub.ofEntities [Entity.coldBench])
        (Directive.stepBench colder).envelope "VALUE_OUT_OF_RANGE" := by
  intro q hub arrive endpoint arrivals
  have leads : (EndpointId.ofEntityId Entity.bench.id).toEntityId = .ok Entity.bench.id := rfl
  have shown : Shown q.settings .bench endpoint := ⟨rfl, rfl, fun step => by cases step <;> rfl⟩
  have white : White .bench 153 500 200 := ⟨rfl, rfl, rfl, rfl⟩
  have arrives (step : WhiteStep) : Arrives (.ofEntityId Entity.bench.id) (arrive step) step :=
    ⟨rfl, _, Directive.ofMessage_envelope_addressed _ _ _, by cases step <;> rfl, rfl⟩
  obtain ⟨down, -, mixed⟩ := white_steps.2 q.settings .bench endpoint _ hub 153 500 200 leads rfl
    shown white (by decide) (by decide) (by decide)
  obtain ⟨-, -, handled⟩ := white_steps.1 colder
    (q.situation (.stepBench colder) .coldBench) (-100) 40 rfl rfl rfl
  obtain ⟨-, refuses⟩ := handled (Hub.ports ⟨1, 0⟩ .none) (Hub.ofEntities [Entity.coldBench]) q _
    (.stepBench colder) _ _ (Directive.ofMessage_envelope_addressed _ _ _)
    ⟨rfl, rfl, rfl, rfl, rfl, by decide +kernel⟩ rfl
  exact ⟨down 2 _ (.cons (arrives colder) (.cons (arrives colder) .nil)),
    mixed arrivals [colder, warmer] (.cons (arrives colder) (.cons (arrives warmer) .nil)) 1
      (by decide), refuses (by decide)⟩

end Control.WhiteStep

end HomeVoice
