import HomeVoice.Proofs.Handling.Session
import HomeVoice.Proofs.Hub.Devices

/-!
# Replies

What comes of a message that arrives at a hub: the reply, beside the hub that is left. Both are told
by the plan for the directive that the message holds. A message that holds none is refused and
changes nothing, and what a plan changes is done by its call.
-/

namespace HomeVoice

namespace Arrival

/-- The request that an arrival makes. -/
def request (settings : Settings) (a : Arrival) : Request :=
  ⟨settings, a.context, a.stamp⟩

/-- The hub as an arrival meets it. -/
def ports (a : Arrival) : Ports Hub :=
  Hub.ports a.now a.outages

/-- What is to be done about an arrival. -/
def start (settings : Settings) (a : Arrival) : Exchange (Except ProtocolError Response) :=
  (a.request settings).handle a.message

/-- The plan for the directive of an arrival. -/
def plan (settings : Settings) (a : Arrival) (d : Directive) (hub : Hub) : Plan :=
  (a.request settings).plan (a.ports.store hub) d

end Arrival

namespace Hub

/-- What comes of a message that is handled against the hub. -/
def reply (settings : Settings) (hub : Hub) (a : Arrival) : Except ProtocolError Response :=
  ((a.start settings).run a.ports hub).result

/-- What comes of messages that are handled in their order. -/
def replies (settings : Settings) (hub : Hub) : List Arrival → List (Except ProtocolError Response)
  | [] => []
  | a :: rest => hub.reply settings a :: (hub.after settings a).replies settings rest

variable {settings : Settings} {a : Arrival} {d : Directive}

theorem after_of_error {e : ProtocolError} (noDirective : Directive.ofMessage a.message = .error e)
    (hub : Hub) : hub.after settings a = hub :=
  congrArg Run.state ((a.request settings).run_handle_of_error a.ports noDirective hub)

theorem reply_of_error {e : ProtocolError} (noDirective : Directive.ofMessage a.message = .error e)
    (hub : Hub) : hub.reply settings a = .error e :=
  congrArg Run.result ((a.request settings).run_handle_of_error a.ports noDirective hub)

/-- The plan is carried out on the hub. -/
theorem after_of_ok (hd : Directive.ofMessage a.message = .ok d) (hub : Hub) :
    hub.after settings a = ((a.plan settings d hub).carryOut a.ports a.context hub).state :=
  congrArg Run.state ((a.request settings).run_handle_of_ok a.ports hd hub)

/-- The reply is made of what has come of the plan. -/
theorem reply_of_ok (hd : Directive.ofMessage a.message = .ok d) (hub : Hub) :
    hub.reply settings a =
      .ok ((a.request settings).settle d
        ((a.plan settings d hub).carryOut a.ports a.context hub).result).1 :=
  congrArg Run.result ((a.request settings).run_handle_of_ok a.ports hd hub)

/-- A message leaves the hub as it was, or as a call leaves it that succeeds. -/
theorem after_eq_or_call (settings : Settings) (hub : Hub) (a : Arrival) :
    hub.after settings a = hub ∨ ∃ c, hub.call c a.now = .ok (hub.after settings a) := by
  cases hd : Directive.ofMessage a.message with
  | error e => exact .inl (after_of_error hd hub)
  | ok d =>
    rw [after_of_ok hd]
    cases a.plan settings d hub with
    | answer result => exact .inl rfl
    | call c response =>
      cases called : (a.ports.call hub c a.context).1 with
      | error e => exact .inl (eq_of_ports_call_error called)
      | ok _ => exact .inr ⟨c, call_of_ports_call_ok called⟩

/-- A message leaves a hub with the devices that it had. -/
theorem sameDevices_after (settings : Settings) (hub : Hub) (a : Arrival) :
    hub.SameDevices (hub.after settings a) := by
  rcases after_eq_or_call settings hub a with unchanged | ⟨c, accepted⟩
  · rw [unchanged]
    exact .refl hub
  · exact sameDevices_of_call accepted

theorem sameDevices_afterAll (settings : Settings) (hub : Hub) (arrivals : List Arrival) :
    hub.SameDevices (hub.afterAll settings arrivals) := by
  induction arrivals generalizing hub with
  | nil => exact .refl hub
  | cons a rest ih => exact (sameDevices_after settings hub a).trans (ih (hub.after settings a))

end Hub

end HomeVoice
