import HomeVoice.Proofs.Handling.Reply
import Mathlib.Logic.Function.Basic

/-!
# Requests in flight

Requests are not handled one after another: while one waits for what it has asked for, others go on.
An exchange is taken apart into its steps, each of which is atomic, and the steps of requests on one
hub come in any order.
-/

namespace HomeVoice

variable {σ α : Type}

/-! ## Steps -/

namespace Exchange

/-- The next step of an exchange, with what is then left of it and the state after the step. -/
def step? (ports : Ports σ) (s : σ) : Exchange α → Option (ExchangeStep × Exchange α × σ)
  | .done _ => none
  | .fetch id next => some (.fetched id (ports.fetch s id), next (ports.fetch s id), s)
  | .fetchAll next => some (.fetchedAll (ports.fetchAll s), next (ports.fetchAll s), s)
  | .call c context next =>
    let (r, s') := ports.call s c context
    some (.called c context r, next r, s')
  | .publish event next =>
    let (r, s') := ports.publish s event
    some (.published event r, next r, s')

variable {ports : Ports σ} {s s' : σ} {x x' : Exchange α} {step : ExchangeStep}

/-- An exchange comes to an end where it has no next step. -/
theorem step?_eq_none : x.step? ports s = none ↔ ∃ result, x = .done result := by
  cases x <;> simp [step?]

/-- An exchange that is carried out at once takes its steps without those of others between. -/
theorem run_of_step? (taken : x.step? ports s = some (step, x', s')) :
    x.run ports s = (x'.run ports s').after step := by
  cases x <;> cases taken <;> rfl

end Exchange

/-- Whether a step is the call of a service. -/
def ExchangeStep.isCall : ExchangeStep → Bool
  | .called .. => true
  | .fetched .. | .fetchedAll _ | .published .. => false

/-! ## Flights -/

variable {ι : Type}

/-- Requests in flight on one hub: what is left of each. -/
structure Flight (ι : Type) where
  left : ι → Exchange (Except ProtocolError Response)
  hub : Hub

namespace Flight

/-- The arrivals before any of their steps. -/
def start (settings : Settings) (arrivals : ι → Arrival) (hub : Hub) : Flight ι where
  left i := (arrivals i).start settings
  hub := hub

/-- No request has a step left. -/
def Landed (arrivals : ι → Arrival) (f : Flight ι) : Prop :=
  ∀ i, (f.left i).step? (arrivals i).ports f.hub = none

theorem Landed.exists_result {arrivals : ι → Arrival} {f : Flight ι} (landed : f.Landed arrivals)
    (i : ι) : ∃ result, f.left i = .done result :=
  Exchange.step?_eq_none.1 (landed i)

section

variable [DecidableEq ι]

/-- The flight after a step of one of its requests. -/
def advance (f : Flight ι) (i : ι) (x : Exchange (Except ProtocolError Response)) (hub : Hub) :
    Flight ι :=
  ⟨Function.update f.left i x, hub⟩

/-- A flight gets to another one by steps of its requests, in any order. -/
inductive Runs (arrivals : ι → Arrival) : Flight ι → List (ι × ExchangeStep) → Flight ι → Prop
  | stop (f : Flight ι) : Runs arrivals f [] f
  | step {f f' : Flight ι} {i : ι} {step : ExchangeStep}
      {x : Exchange (Except ProtocolError Response)} {hub : Hub} {log : List (ι × ExchangeStep)}
      (taken : (f.left i).step? (arrivals i).ports f.hub = some (step, x, hub))
      (rest : Runs arrivals (f.advance i x hub) log f') : Runs arrivals f ((i, step) :: log) f'

/-- The steps that requests take which are chosen one by one, and the flight after them. One that
has no step left takes none. -/
def follow (arrivals : ι → Arrival) (f : Flight ι) :
    List ι → List (ι × ExchangeStep) × Flight ι
  | [] => ([], f)
  | i :: rest =>
    match (f.left i).step? (arrivals i).ports f.hub with
    | none => f.follow arrivals rest
    | some (step, x, hub) =>
      let (log, f') := (f.advance i x hub).follow arrivals rest
      ((i, step) :: log, f')

theorem runs_follow (arrivals : ι → Arrival) (f : Flight ι) (schedule : List ι) :
    Runs arrivals f (f.follow arrivals schedule).1 (f.follow arrivals schedule).2 := by
  induction schedule generalizing f with
  | nil => exact .stop f
  | cons i rest ih =>
    cases taken : (f.left i).step? (arrivals i).ports f.hub with
    | none =>
      simp only [follow, taken]
      exact ih f
    | some next =>
      obtain ⟨step, x, hub⟩ := next
      simp only [follow, taken]
      exact .step taken (ih _)

/-- Whether a request calls a service. -/
def calls (i : ι) (log : List (ι × ExchangeStep)) : Bool :=
  log.any fun entry => entry.1 = i && entry.2.isCall

/-- The requests in the order of their calls, and of their reads where they make no call. -/
def order : List (ι × ExchangeStep) → List ι
  | [] => []
  | (i, step) :: later =>
    if step.isCall || (step.isRead && !calls i later) then i :: order later else order later

variable {f : Flight ι} {i j : ι} {x : Exchange (Except ProtocolError Response)} {hub : Hub}

theorem left_advance_self : (f.advance i x hub).left i = x := by
  simp [advance]

theorem left_advance_of_ne (ne : j ≠ i) : (f.advance i x hub).left j = f.left j := by
  simp [advance, ne]

end

end Flight

end HomeVoice
