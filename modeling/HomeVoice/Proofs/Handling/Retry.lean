import HomeVoice.Proofs.Discovery.Agreement
import HomeVoice.Proofs.Handling.Stability
import HomeVoice.Proofs.Hub.Repeat
import HomeVoice.Proofs.Hub.Undated

/-!
# Retrying is safe

Whoever sends a message and hears nothing may send it once more. Unless it moves a value on from
what it is, the message gets the reply that it got the first time, and the hub is left as it was,
but for the time at which the addressed entity has changed.
-/

namespace HomeVoice

/-- The kinds of directives that move a value on, so that each time counts. -/
def DirectiveKind.accumulating : List DirectiveKind :=
  .stepAdjustVolume :: relative

/-- Only steps of the volume are services that count each time. -/
theorem Control.Decided.steady {s : Situation} {k : DirectiveKind} {o : Outcome}
    (h : Decided s k o) (notStep : k ≠ .stepAdjustVolume) {c : ServiceCall}
    (called : o.call = some c) : c.service ∉ Entity.steppingServices := by
  have own (service : String) : (s.call service).service = service := rfl
  cases h with
  | stepNone | stepUp | stepDown => exact absurd rfl notStep
  | turnOn | turnOff =>
    cases called
    unfold powerCall
    split <;> simp [ServiceCall.own, ServiceCall.inDomain, Entity.steppingServices]
  | setPercentage _ made | adjustPercentage _ _ made =>
    cases called
    unfold percentageCall at made
    split at made <;> cases made <;> simp [ServiceCall.withData, own, Entity.steppingServices]
  | setTargetTemperature | adjustTargetTemperature =>
    rw [setpointOutcome_call] at called
    cases called
    simp [own, Entity.steppingServices]
  | _ =>
    cases called
    simp [ServiceCall.withData, muteCall, own, Entity.steppingServices]

namespace Hub

variable {settings : Settings} {hub hub₁ : Hub} {a b : Arrival} {c : ServiceCall}

/-- A call that has been accepted is accepted once more, and then changes the time of its target
and nothing else. -/
theorem call_again {now : Timestamp} (accepted : hub.call c now = .ok hub₁)
    (steady : c.service ∉ Entity.steppingServices) (now' : Timestamp) :
    ∃ e, hub₁.get? c.target = some e ∧
      hub₁.call c now' = .ok (hub₁.upsert { e with lastUpdated := now' }) := by
  obtain ⟨e, e₁, found, applied, target, rfl⟩ := call_eq_ok accepted
  obtain ⟨domain, served, done, rfl⟩ := Entity.apply_eq_ok.1 applied
  have stored : (hub.upsert (served.dated now)).get? c.target = some (served.dated now) := by
    rw [get?_upsert]
    exact if_pos target
  have again : (served.dated now).serve c = .ok (served.dated now) := by
    rw [Entity.serve_dated, Entity.serve_again steady done]
    rfl
  have reapplied : (served.dated now).apply c now' = .ok (served.dated now') :=
    Entity.apply_eq_ok.2 ⟨(Entity.SameDevice.serve done).id.symm ▸ domain, _, again, rfl⟩
  refine ⟨_, stored, ?_⟩
  show (hub.upsert (served.dated now)).call c now' = _
  unfold call
  rw [stored]
  exact congrArg (Except.map _) reapplied

/-- A call that is made once more changes at most the time of its target. -/
theorem afterCall_again (again : a.Repeats b) (steady : c.service ∉ Entity.steppingServices)
    (hub : Hub) :
    let hub₁ := hub.afterCall a (some c)
    let hub₂ := hub₁.afterCall b (some c)
    hub₂ = hub₁ ∨
      ∃ e, hub₁.get? c.target = some e ∧ hub₂ = hub₁.upsert { e with lastUpdated := b.now } := by
  intro hub₁ hub₂
  cases called : (a.ports.call hub c a.context).1 with
  | error e =>
    have unchanged : hub₁ = hub := eq_of_ports_call_error called
    have called' : (b.ports.call hub₁ c b.context).1 = .error e := by
      rw [unchanged, call_congr again (.refl hub) c a.context, called]
    exact .inl (eq_of_ports_call_error called')
  | ok _ =>
    have accepted : hub.call c a.now = .ok hub₁ := call_of_ports_call_ok called
    have called' : (b.ports.call hub₁ c b.context).1 = .ok () := by
      rw [call_congr again (sameDevices_of_call accepted) c a.context, called]
    have accepted' : hub₁.call c b.now = .ok hub₂ := call_of_ports_call_ok called'
    obtain ⟨e, stored, changed⟩ := call_again accepted steady b.now
    exact .inr ⟨e, stored, Except.ok.inj (accepted'.symm.trans changed)⟩

/-- What is planned for a message that moves nothing on is planned once more when it comes again. -/
theorem plan_again (settings : Settings) {d : Directive}
    (hd : Directive.ofMessage a.message = .ok d)
    (setting : ∀ k ∈ DirectiveKind.accumulating, ¬Asks a.message k) (hub : Hub) :
    a.plan settings d (hub.after settings a) = a.plan settings d hub := by
  cases planned : a.plan settings d hub with
  | answer result =>
    have unchanged : hub.after settings a = hub := by
      rw [after_eq_afterCall hd, planned]
      rfl
    rw [unchanged, planned]
  | call c response =>
    obtain ⟨k, judge, id, entity, endpoint, outcome, auth, route, -⟩ :=
      Request.plan_eq_call.1 planned
    rw [← planned]
    refine Request.plan_congr auth.kind route (sameDevices_after settings hub a) ?_
    intro relative
    exact absurd ⟨d, hd, auth.kind⟩ (setting k (List.mem_cons_of_mem _ relative))

/-- A message that moves nothing on can be sent once more. It gets the same reply but for fresh ids
and the time, be it an error or not, and the hub is left as the first time has left it, but for the
time at which the addressed entity has changed. -/
theorem retry (settings : Settings) (hub : Hub) (again : a.Repeats b)
    (setting : ∀ k ∈ DirectiveKind.accumulating, ¬Asks a.message k) :
    let hub₁ := hub.after settings a
    let hub₂ := hub₁.after settings b
    (hub₁.reply settings b).map Response.unstamped =
      (hub.reply settings a).map Response.unstamped ∧
    (hub₂ = hub₁ ∨ ∃ d id e, Directive.ofMessage a.message = .ok d ∧ d.target? = some id ∧
      hub₁.get? id = some e ∧ hub₂ = hub₁.upsert { e with lastUpdated := b.now }) := by
  intro hub₁ hub₂
  cases hd : Directive.ofMessage a.message with
  | error e =>
    have hd' : Directive.ofMessage b.message = .error e := again.message ▸ hd
    refine ⟨?_, .inl (after_of_error hd' hub₁)⟩
    rw [reply_of_error hd, reply_of_error hd']
  | ok d =>
    have hd' : Directive.ofMessage b.message = .ok d := again.message ▸ hd
    have stands := plan_again settings hd setting hub
    refine ⟨reply_congr again hd stands (sameDevices_after settings hub a), ?_⟩
    have first : hub₁ = hub.afterCall a (a.plan settings d hub).call? := after_eq_afterCall hd hub
    have second : hub₂ = hub₁.afterCall b (a.plan settings d hub).call? := by
      rw [← (Arrival.alike_plan again stands).call?]
      exact after_eq_afterCall hd' hub₁
    cases planned : a.plan settings d hub with
    | answer result =>
      rw [planned] at second
      exact .inl second
    | call c response =>
      obtain ⟨k, judge, id, entity, endpoint, outcome, auth, route, decided, called, -⟩ :=
        Request.plan_eq_call.1 planned
      have rule := Control.decided_of_ok route decided
      have notStep : k ≠ .stepAdjustVolume := by
        rintro rfl
        exact setting .stepAdjustVolume List.mem_cons_self ⟨d, hd, auth.kind⟩
      have target : c.target = id :=
        (rule.target called).trans (id_of_ports_fetch hub a.now a.outages auth.stored)
      rw [planned] at first second
      rw [second, first]
      rcases afterCall_again again (rule.steady notStep called) hub with
        unchanged | ⟨e, stored, changed⟩
      · exact .inl unchanged
      · exact .inr ⟨d, id, e, rfl, auth.named, target ▸ stored, changed⟩

/-- A light that is turned on twice is on, and both times the answer is the same. -/
theorem retry_desk :
    let settings := (Request.exposing .all).settings
    let hub := ofEntities [Entity.desk]
    let message := (Directive.addressed "Alexa.PowerController" "TurnOn" Entity.desk.id).envelope
    let a : Arrival := ⟨message, ⟨.zero, none⟩, ⟨.zero, .zero, ⟨1, 0⟩⟩, ⟨1, 0⟩, .none⟩
    let b : Arrival := { a with stamp := ⟨.zero, .zero, ⟨2, 0⟩⟩, now := ⟨2, 0⟩ }
    let hub₁ := hub.after settings a
    a.Repeats b ∧ (∀ k ∈ DirectiveKind.accumulating, ¬Asks message k) ∧
      (hub.get? Entity.desk.id).map Entity.state = some "off" ∧
      (hub₁.get? Entity.desk.id).map Entity.state = some "on" ∧
      (hub₁.reply settings b).map Response.unstamped =
        (hub.reply settings a).map Response.unstamped := by
  intro settings hub message a b hub₁
  have again : a.Repeats b := ⟨rfl, rfl⟩
  have setting : ∀ k ∈ DirectiveKind.accumulating, ¬Asks message k := by
    rintro k moves ⟨d, hd, kind⟩
    cases (Directive.ofMessage_envelope_addressed _ _ _).symm.trans hd
    obtain rfl : DirectiveKind.turnOn = k := Option.some.inj kind
    revert moves
    decide
  exact ⟨again, setting, by decide +kernel, by decide +kernel,
    (retry settings hub again setting).1⟩

end Hub

end HomeVoice
