import HomeVoice.Bridge.Exchange

/-!
# Runs of composed exchanges

One exchange after another runs as its parts do: the second part starts where the first ended and
its steps follow. What a run did to the outside, its calls and the events that it handed to the
publisher, is read off the steps.
-/

namespace HomeVoice

variable {σ α β γ : Type}

/-- The events of a run that the publisher was asked to publish, whether it did or not. -/
def Run.handed (r : Run σ α) : List AuditEvent :=
  r.steps.filterMap fun
    | .published event _ => some event
    | _ => none

/-- The run with other steps before its first. -/
def Run.afterAll (steps : List ExchangeStep) (r : Run σ α) : Run σ α :=
  { r with steps := steps ++ r.steps }

/-- Whether a step only reads. -/
def ExchangeStep.isRead : ExchangeStep → Bool
  | .fetched .. | .fetchedAll _ => true
  | .called .. | .published .. => false

namespace Run

variable {steps : List ExchangeStep}

theorem calls_afterAll (h : ∀ step ∈ steps, step.isRead = true) (r : Run σ α) :
    (r.afterAll steps).calls = r.calls := by
  unfold calls afterAll
  rw [List.filterMap_append, List.filterMap_eq_nil_iff.2, List.nil_append]
  intro step hstep
  have := h step hstep
  cases step <;> simp_all [ExchangeStep.isRead]

theorem exists_called_of_mem_calls {r : Run σ α} {c : ServiceCall} {context : RequestContext}
    (made : (c, context) ∈ r.calls) : ∃ result, .called c context result ∈ r.steps := by
  obtain ⟨step, member, found⟩ := List.mem_filterMap.1 made
  cases step with
  | called c' context' result =>
    cases found
    exact ⟨result, member⟩
  | _ => cases found

theorem handed_afterAll (h : ∀ step ∈ steps, step.isRead = true) (r : Run σ α) :
    (r.afterAll steps).handed = r.handed := by
  unfold handed afterAll
  rw [List.filterMap_append, List.filterMap_eq_nil_iff.2, List.nil_append]
  intro step hstep
  have := h step hstep
  cases step <;> simp_all [ExchangeStep.isRead]

end Run

namespace Exchange

theorem bind_assoc (x : Exchange α) (f : α → Exchange β) (g : β → Exchange γ) :
    (x.bind f).bind g = x.bind fun a => (f a).bind g := by
  induction x with
  | done a => rfl
  | fetch id next ih => simp [bind, ih]
  | fetchAll next ih => simp [bind, ih]
  | call c context next ih => simp [bind, ih]
  | publish event next ih => simp [bind, ih]

/-- The second part of a run starts in the state in which the first ended. -/
theorem run_bind (ports : Ports σ) (x : Exchange α) (f : α → Exchange β) (s : σ) :
    (x.bind f).run ports s =
      let first := x.run ports s
      ((f first.result).run ports first.state).afterAll first.steps := by
  induction x generalizing s with
  | done a => simp [bind, run, Run.afterAll]
  | fetch id next ih => simp [bind, run, Run.after, Run.afterAll, ih]
  | fetchAll next ih => simp [bind, run, Run.after, Run.afterAll, ih]
  | call c context next ih => simp [bind, run, Run.after, Run.afterAll, ih]
  | publish event next ih => simp [bind, run, Run.after, Run.afterAll, ih]

end Exchange

end HomeVoice
