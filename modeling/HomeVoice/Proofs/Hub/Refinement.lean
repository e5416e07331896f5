import HomeVoice.Proofs.Hub.Table

/-!
# The hub and its table

A hub that has its entities in order says what the table in which they are kept does. Whatever is
carried out against the table comes to the same as against the hub, and takes the same steps. So
what is shown of hubs holds of tables.
-/

namespace HomeVoice

/-! ## Simulation -/

/-- Ports that answer the same in related states, and lead from related states to related states. -/
structure Ports.Simulates {σ τ : Type} (R : σ → τ → Prop) (ports : Ports σ) (ports' : Ports τ) :
    Prop where
  fetch : ∀ {s s'} id, R s s' → ports.fetch s id = ports'.fetch s' id
  fetchAll : ∀ {s s'}, R s s' → ports.fetchAll s = ports'.fetchAll s'
  call : ∀ {s s'} c context, R s s' →
    (ports.call s c context).1 = (ports'.call s' c context).1 ∧
      R (ports.call s c context).2 (ports'.call s' c context).2
  publish : ∀ {s s'} event, R s s' →
    (ports.publish s event).1 = (ports'.publish s' event).1 ∧
      R (ports.publish s event).2 (ports'.publish s' event).2

/-- An exchange comes to the same over ports that simulate each other. -/
theorem Exchange.run_simulates {σ τ α : Type} {R : σ → τ → Prop} {ports : Ports σ}
    {ports' : Ports τ} (simulates : ports.Simulates R ports') (x : Exchange α) {s : σ} {s' : τ}
    (related : R s s') :
    (x.run ports s).result = (x.run ports' s').result ∧
      (x.run ports s).steps = (x.run ports' s').steps ∧
      R (x.run ports s).state (x.run ports' s').state := by
  induction x generalizing s s' with
  | done a => exact ⟨rfl, rfl, related⟩
  | fetch id next ih =>
    simp only [run, Run.after, simulates.fetch id related]
    obtain ⟨result, steps, later⟩ := ih (ports'.fetch s' id) related
    exact ⟨result, congrArg _ steps, later⟩
  | fetchAll next ih =>
    simp only [run, Run.after, simulates.fetchAll related]
    obtain ⟨result, steps, later⟩ := ih (ports'.fetchAll s') related
    exact ⟨result, congrArg _ steps, later⟩
  | call c context next ih =>
    obtain ⟨reply, related⟩ := simulates.call c context related
    simp only [run, Run.after, reply]
    obtain ⟨result, steps, later⟩ := ih (ports'.call s' c context).1 related
    exact ⟨result, congrArg _ steps, later⟩
  | publish event next ih =>
    obtain ⟨reply, related⟩ := simulates.publish event related
    simp only [run, Run.after, reply]
    obtain ⟨result, steps, later⟩ := ih (ports'.publish s' event).1 related
    exact ⟨result, congrArg _ steps, later⟩

namespace EntityTable

/-! ## Tables of hubs -/

/-- The table keeps the entities of the hub. -/
structure Keeps (t : EntityTable) (hub : Hub) : Prop where
  sound : t.Sound
  found : ∀ id, t.get? id = hub.get? id

variable {t : EntityTable} {hub : Hub}

theorem Keeps.all (keeps : t.Keeps hub) : t.all = hub.entities := by
  refine eq_of_ascending Entity.id keeps.sound.ascending hub.ascending ?_
  intro e
  rw [keeps.sound.mem_all_iff, keeps.found, Hub.get?_eq_some_iff, and_iff_left rfl]

theorem Keeps.size (keeps : t.Keeps hub) : t.size = hub.size := by
  rw [← length_all, keeps.all, Hub.size]

theorem Keeps.set (keeps : t.Keeps hub) (e : Entity) : (t.set e.id e).Keeps (hub.upsert e) where
  sound := keeps.sound.set rfl
  found := by
    intro id
    rw [get?_set, Hub.get?_upsert, keeps.found]

theorem keeps_ofEntities (entities : List Entity) :
    (ofEntities entities).Keeps (Hub.ofEntities entities) := by
  have keeps : empty.Keeps .empty := ⟨sound_empty, fun _ => rfl⟩
  exact List.foldl_rel keeps fun e _ _ _ keeps => keeps.set e

/-- Calls succeed and fail alike, and leave the same entities. -/
theorem Keeps.attempt (keeps : t.Keeps hub) (c : ServiceCall) (now : Timestamp) :
    (t.attempt c now).1 = (hub.attempt c now).1 ∧
      (t.attempt c now).2.Keeps (hub.attempt c now).2 := by
  unfold EntityTable.attempt Hub.attempt
  rw [keeps.found]
  cases found : hub.get? c.target with
  | none => exact ⟨rfl, keeps⟩
  | some e =>
    have own : ((Edit.call c now).run e).2.id = c.target :=
      (Edit.id_run_call c now e).trans (Hub.get?_eq_some_iff.1 found).2
    exact ⟨rfl, own ▸ keeps.set _⟩

theorem simulates_ports (now : Timestamp) (outages : Outages) :
    (ports now outages).Simulates Keeps (Hub.ports now outages) where
  fetch := by
    intro t hub id keeps
    exact congrArg (Outages.guard outages.fetch) (keeps.found id)
  fetchAll := by
    intro t hub keeps
    exact congrArg (Outages.guard outages.fetchAll) keeps.all
  call := by
    intro t hub c context keeps
    unfold ports Hub.ports
    cases outages.call with
    | some e => exact ⟨rfl, keeps⟩
    | none => exact keeps.attempt c now
  publish := fun event keeps => ⟨rfl, keeps⟩

theorem Keeps.run {α : Type} (keeps : t.Keeps hub) (x : Exchange α) (now : Timestamp)
    (outages : Outages) :
    (x.run (ports now outages) t).result = (x.run (Hub.ports now outages) hub).result ∧
      (x.run (ports now outages) t).steps = (x.run (Hub.ports now outages) hub).steps ∧
      (x.run (ports now outages) t).state.Keeps (x.run (Hub.ports now outages) hub).state :=
  x.run_simulates (simulates_ports now outages) keeps

/-- Whatever is carried out against the table of some entities comes to the same as against their
hub, takes the same steps, and leaves the same entities. -/
theorem run_ofEntities {α : Type} (entities : List Entity) (x : Exchange α) (now : Timestamp)
    (outages : Outages) :
    let run := x.run (ports now outages) (ofEntities entities)
    let run' := x.run (Hub.ports now outages) (Hub.ofEntities entities)
    run.result = run'.result ∧ run.steps = run'.steps ∧
      run.state.all = run'.state.entities ∧ run.state.size = run'.state.size := by
  obtain ⟨result, steps, keeps⟩ := (keeps_ofEntities entities).run x now outages
  exact ⟨result, steps, keeps.all, keeps.size⟩

end EntityTable

end HomeVoice
