import HomeVoice.Proofs.Handling.Authorisation
import HomeVoice.Proofs.Hub.Acceptance

/-!
# Services are asked of their own devices

A hub may do a service that is meant for other devices. The bridge asks for none: the service of
every call that it makes is one that the devices of the domain of its target have, and what it asks
for in the generic domain is to turn on or off.
-/

namespace HomeVoice

namespace Control

open Entity (offers)

variable {s : Situation} {k : DirectiveKind} {o : Outcome} {c : ServiceCall}

/-- A cover is switched by services of covers, and everything else by turning it on or off. -/
theorem offers_powerCall (e : Entity) (state : PowerState) :
    offers e.domain (powerCall e state).service = true := by
  unfold powerCall
  cases e.domain <;> cases state <;> rfl

theorem offers_percentageCall {percentage : Int64} (made : percentageCall s percentage = .ok c) :
    offers s.entity.domain c.service = true := by
  unfold percentageCall at made
  split at made
  · next cover =>
    cases made
    rw [cover]
    rfl
  · next fan =>
    cases made
    rw [fan]
    rfl
  · cases made

/-- A directive that the entity can be told comes to a service that devices of its domain have. -/
theorem Decided.offered (decided : Decided s k o) (possible : s.entity.domain ∈ k.domains)
    (called : o.call = some c) : offers s.entity.domain c.service = true := by
  have only {d : Domain} {service : String} (possible : s.entity.domain ∈ [d])
      (own : offers d service = true) : offers s.entity.domain service = true := by
    rw [List.mem_singleton.1 possible]
    exact own
  cases decided with
  | turnOn | turnOff =>
    cases called
    exact offers_powerCall s.entity _
  | setPercentage _ made | adjustPercentage _ _ made =>
    cases called
    exact offers_percentageCall made
  | setTargetTemperature | adjustTargetTemperature =>
    rw [setpointOutcome_call] at called
    cases called
    exact only possible rfl
  | stepNone => cases called
  | setBrightness | adjustBrightness | setColor | setColorTemperature | increaseColorTemperature
  | decreaseColorTemperature | activate | deactivate =>
    cases called
    rfl
  | _ =>
    cases called
    exact only possible rfl

end Control

/-- Groups are only turned on and off. -/
theorem Entity.offers_group_cases {service : String} (offered : offers .group service = true) :
    service = "turn_on" ∨ service = "turn_off" := by
  unfold offers at offered
  split at offered
  · exact .inl rfl
  · exact .inr rfl
  all_goals simp at offered

/-- A call is for a service that the devices of the domain of its target have, and in the generic
domain it turns on or off. -/
structure ServiceCall.Fits (c : ServiceCall) : Prop where
  offered : Entity.offers c.target.domain c.service = true
  generic : c.domain = genericDomain → c.service = "turn_on" ∨ c.service = "turn_off"

namespace Request

/-- What an authorised directive comes to fits its target. -/
theorem Authorised.fits {q : Request} {store : Store} {d : Directive} {k : DirectiveKind}
    {entity : Entity} {endpoint : Endpoint} {o : Outcome} {c : ServiceCall}
    (auth : q.Authorised store d k entity.id entity endpoint)
    (decided : Control.Decided (q.situation d entity) k o) (called : o.call = some c) :
    c.Fits := by
  have possible := Entity.domain_mem_of_accepts auth.shown auth.accepted
  have offered : Entity.offers c.target.domain c.service = true := by
    rw [decided.target called]
    exact decided.offered possible called
  refine ⟨offered, fun generic => ?_⟩
  have domain := auth.call_domain decided called
  rw [generic, Control.switchingDomain] at domain
  split at domain
  · next group =>
    rw [decided.target called] at offered
    exact Entity.offers_group_cases (group ▸ offered)
  · exact absurd domain.symm auth.domainName_ne_generic

/-- Every call that a message makes fits its target. -/
theorem fits_of_mem_calls {σ : Type} (q : Request) (ports : Ports σ) (st : σ)
    (faithful : ∀ id entity, ports.fetch st id = .ok (some entity) → entity.id = id)
    {message : Json} {c : ServiceCall} {context : RequestContext}
    (made : (c, context) ∈ ((q.handle message).run ports st).calls) : c.Fits := by
  obtain ⟨-, d, k, judge, id, entity, endpoint, o, -, auth, route, decided, called⟩ :=
    (q.mem_calls_handle_iff ports message st c context).1 made
  obtain rfl : entity.id = id := faithful id entity auth.stored
  exact auth.fits (Control.decided_of_ok route decided) called

end Request

end HomeVoice
