import HomeVoice.Proofs.Interleaving.Stage
import Mathlib.Data.List.Nodup
import Mathlib.Data.List.Forall2

/-!
# Interleaved requests are handled as if one after another

Each request takes effect in one step, its call, or its read if it makes no call. Whatever comes
between its other steps, the requests in flight get the replies and leave the hub that they would if
they were handled one after another in the order of these steps.
-/

namespace HomeVoice

namespace Flight

variable {ι : Type} [DecidableEq ι] {settings : Settings} {arrivals again : ι → Arrival}
  {f f' : Flight ι} {log : List (ι × ExchangeStep)} {i j : ι}

theorem calls_cons {step : ExchangeStep} :
    calls i ((j, step) :: log) = true ↔ j = i ∧ step.isCall = true ∨ calls i log = true := by
  simp [calls]

theorem order_cons_of_counts {step : ExchangeStep}
    (counts : step.isCall = true ∨ step.isRead = true ∧ calls i log = false) :
    order ((i, step) :: log) = i :: order log := by
  rw [order, if_pos]
  simpa using counts

theorem order_cons_of_not {step : ExchangeStep} (notCall : step.isCall = false)
    (notRead : step.isRead = false ∨ calls i log = true) :
    order ((i, step) :: log) = order log := by
  rw [order, if_neg]
  rcases notRead with notRead | called
  · simp [notCall, notRead]
  · simp [notCall, called]

theorem eq_or_mem_of_mem_order {step : ExchangeStep} (member : i ∈ order ((j, step) :: log)) :
    i = j ∨ i ∈ order log := by
  rw [order] at member
  split at member
  · exact List.mem_cons.1 member
  · exact .inr member

/-! ## What is still to come of a request -/

/-- A request that has only its result to record takes no effect any more. -/
theorem Runs.of_concludes (runs : Runs arrivals f log f') {result : Except ProtocolError Response}
    (concludes : (f.left i).Concludes result) :
    (f'.left i).Concludes result ∧ calls i log = false ∧ i ∉ order log := by
  induction runs with
  | stop f => exact ⟨concludes, rfl, List.not_mem_nil⟩
  | @step f f' j step x hub log taken rest ih =>
    by_cases own : j = i
    · subst own
      obtain ⟨notRead, notCall, concludes', -⟩ := concludes.of_step taken
      obtain ⟨last, quiet, absent⟩ := ih (by rw [left_advance_self]; exact concludes')
      refine ⟨last, ?_, ?_⟩
      · simpa [calls, notCall] using quiet
      · rwa [order_cons_of_not notCall (.inl notRead)]
    · obtain ⟨last, quiet, absent⟩ :=
        ih (by rw [left_advance_of_ne (Ne.symm own)]; exact concludes)
      refine ⟨last, ?_, ?_⟩
      · simpa [calls, own] using quiet
      · exact fun member => (eq_or_mem_of_mem_order member).elim (Ne.symm own) absent

/-- A request that is about to call does so before it has its result. -/
theorem Runs.calls_of_left_eq_call (runs : Runs arrivals f log f') (landed : f'.Landed arrivals)
    {c : ServiceCall} {context : RequestContext}
    {next : Except HubError Unit → Exchange (Except ProtocolError Response)}
    (about : f.left i = .call c context next) : calls i log = true := by
  induction runs with
  | stop f =>
    obtain ⟨result, done⟩ := landed.exists_result i
    cases about.symm.trans done
  | @step f f' j step x hub log taken rest ih =>
    rw [calls_cons]
    by_cases own : j = i
    · subst own
      rw [about] at taken
      cases taken
      exact .inl ⟨rfl, rfl⟩
    · exact .inr (ih landed (by rw [left_advance_of_ne (Ne.symm own)]; exact about))

/-! ## The order of effects -/

/-- No request adjusts a value of an entity that another one controls. -/
def Apart (arrivals : ι → Arrival) : Prop :=
  ∀ i j id, i ≠ j → Adjusts (arrivals i).message id → ¬Controls (arrivals j).message id

/-- What a flight comes to is what comes of its requests one after another in an order. The other
requests had nothing left to do but to record their results. -/
structure Serial (settings : Settings) (arrivals : ι → Arrival) (f f' : Flight ι)
    (order : List ι) : Prop where
  hub : f'.hub = f.hub.afterAll settings (order.map arrivals)
  replies : List.Forall₂ (fun i reply => f'.left i = .done reply) order
    (f.hub.replies settings (order.map arrivals))
  distinct : order.Nodup
  others : ∀ i, i ∉ order → ∃ result, (f.left i).Concludes result

namespace Serial

variable {x : Exchange (Except ProtocolError Response)} {hub : Hub} {order : List ι}

/-- A step by which a request takes effect comes first in the order. -/
theorem cons (rest : Serial settings arrivals (f.advance i x hub) f' order)
    (after : hub = f.hub.after settings (arrivals i))
    (done : f'.left i = .done (f.hub.reply settings (arrivals i))) (new : i ∉ order) :
    Serial settings arrivals f f' (i :: order) := by
  subst after
  refine ⟨rest.hub, .cons done rest.replies, List.nodup_cons.2 ⟨new, rest.distinct⟩, ?_⟩
  intro j absent
  have other : j ≠ i := fun same => absent (same ▸ List.mem_cons_self)
  rw [← left_advance_of_ne other]
  exact rest.others j fun member => absent (List.mem_cons_of_mem i member)

/-- Any other step is as good as none. -/
theorem skip (rest : Serial settings arrivals (f.advance i x f.hub) f' order)
    (own : i ∉ order → ∃ result, (f.left i).Concludes result) :
    Serial settings arrivals f f' order := by
  refine ⟨rest.hub, rest.replies, rest.distinct, ?_⟩
  intro j absent
  by_cases same : j = i
  · exact same ▸ own (same ▸ absent)
  · rw [← left_advance_of_ne same]
    exact rest.others j absent

end Serial

/-- Stages are kept by the steps of other requests. -/
theorem stages_advance (apart : Apart arrivals)
    (stages : ∀ i, Stage settings (arrivals i) f.hub (f.left i))
    {x : Exchange (Except ProtocolError Response)} {hub : Hub}
    (own : Stage settings (arrivals i) hub x)
    (changed : hub = f.hub ∨ hub = f.hub.after settings (arrivals i)) (j : ι) :
    Stage settings (arrivals j) (f.advance i x hub).hub ((f.advance i x hub).left j) := by
  by_cases same : j = i
  · subst same
    rw [left_advance_self]
    exact own
  · rw [left_advance_of_ne same]
    rcases changed with rfl | rfl
    · exact stages j
    · exact (stages j).after (apart j i · same)

/-- A request that concludes with a result has it when the flight has landed. -/
theorem Runs.left_eq_done (runs : Runs arrivals f log f') (landed : f'.Landed arrivals)
    {result : Except ProtocolError Response} (concludes : (f.left i).Concludes result) :
    f'.left i = .done result := by
  obtain ⟨result', done⟩ := landed.exists_result i
  have last := (runs.of_concludes concludes).1
  rw [done] at last ⊢
  rw [last.eq_of_done]

/-- A flight whose requests are in some stage, when it has landed, has come to what its requests
come to one after another in the order in which they took effect. -/
theorem Runs.serial (apart : Apart arrivals) (runs : Runs arrivals f log f')
    (landed : f'.Landed arrivals)
    (stages : ∀ i, Stage settings (arrivals i) f.hub (f.left i)) :
    Serial settings arrivals f f' (order log) := by
  induction runs with
  | stop f =>
    refine ⟨rfl, .nil, List.nodup_nil, ?_⟩
    intro i _
    obtain ⟨result, done⟩ := landed.exists_result i
    exact ⟨result, done ▸ .done result⟩
  | @step f f' i step x hub log taken rest ih =>
    have own : (f.advance i x hub).left i = x := left_advance_self
    have spent {result : Except ProtocolError Response} (concludes : x.Concludes result) :
        ((f.advance i x hub).left i).Concludes result := by
      rwa [own]
    cases (stages i).move taken with
    | plans read hd planned =>
      have serial := ih landed (stages_advance apart stages (.poised hd planned) (.inl rfl))
      have called : calls i log = true := rest.calls_of_left_eq_call landed own
      have notCall : step.isCall = false := by
        cases step <;> first | rfl | cases read
      rw [order_cons_of_not notCall (.inr called)]
      refine serial.skip ?_
      intro absent
      obtain ⟨result, concludes⟩ := serial.others i absent
      rw [own] at concludes
      cases concludes
    | answers read concludes kept =>
      have serial := ih landed (stages_advance apart stages (.spent concludes) (.inl rfl))
      obtain ⟨-, quiet, new⟩ := rest.of_concludes (spent concludes)
      rw [order_cons_of_counts (.inr ⟨read, quiet⟩)]
      exact serial.cons kept.symm (rest.left_eq_done landed (spent concludes)) new
    | acts call hd planned concludes =>
      have serial := ih landed (stages_advance apart stages (.spent concludes) (.inr rfl))
      obtain ⟨-, -, new⟩ := rest.of_concludes (spent concludes)
      rw [order_cons_of_counts (.inl call)]
      exact serial.cons rfl (rest.left_eq_done landed (spent concludes)) new
    | records notRead notCall concludes concludes' =>
      have serial := ih landed (stages_advance apart stages (.spent concludes') (.inl rfl))
      rw [order_cons_of_not notCall (.inl notRead)]
      exact serial.skip fun _ => ⟨_, concludes⟩

end Flight

end HomeVoice
