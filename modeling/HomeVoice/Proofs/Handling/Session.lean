import HomeVoice.Proofs.Handling.Dispatch
import HomeVoice.Proofs.Hub.Sound

/-!
# Sessions

Messages come one after another, and each is handled against the hub as the one before has left it.
A hub of sound entities whose thermostats have finite bounds stays one, whatever the messages are,
whenever they come and whatever is out of order when they do.
-/

namespace HomeVoice

/-- A message, with who sends it, what is fresh in its answer, when the hub is told and what is out
of order then. -/
structure Arrival where
  message : Json
  context : RequestContext
  stamp : Stamp
  now : Timestamp
  outages : Outages

namespace Hub

/-- The hub after a message has been handled. -/
def after (settings : Settings) (hub : Hub) (a : Arrival) : Hub :=
  (((⟨settings, a.context, a.stamp⟩ : Request).handle a.message).run
    (ports a.now a.outages) hub).state

/-- The hub after messages have been handled in their order. -/
def afterAll (settings : Settings) (hub : Hub) (arrivals : List Arrival) : Hub :=
  arrivals.foldl (after settings) hub

/-- Every entity makes sense as a device of its domain. -/
def Sound (unit : TemperatureUnit) (hub : Hub) : Prop :=
  ∀ e ∈ hub.entities, e.Sound unit

variable {settings : Settings} {hub : Hub}

theorem mem_upsert {e x : Entity} (h : x ∈ (hub.upsert e).entities) : x = e ∨ x ∈ hub.entities :=
  mem_insertEntity h

/-- A message leaves the hub as it was, or controls one of its entities. -/
theorem after_cases (bounded : hub.FiniteBounds) (a : Arrival) :
    hub.after settings a = hub ∨ ∃ e ∈ hub.entities, ∃ e' readings,
      Control.Effect e settings.unit readings e' ∧ e.SameDevice e' ∧
        hub.after settings a = hub.upsert { e' with lastUpdated := a.now } :=
  Request.state_handle ⟨settings, a.context, a.stamp⟩ a.message a.now a.outages bounded

theorem finiteBounds_after (bounded : hub.FiniteBounds) (a : Arrival) :
    (hub.after settings a).FiniteBounds := by
  rcases after_cases bounded a with unchanged | ⟨e, member, e', readings, -, same, changed⟩
  · rw [unchanged]
    exact bounded
  · rw [changed]
    intro x stored climate
    rcases mem_upsert stored with rfl | other
    · exact same.finiteBounds (bounded e member (same.domain.symm.trans climate))
    · exact bounded x other climate

theorem sound_after (bounded : hub.FiniteBounds) (sound : hub.Sound settings.unit) (a : Arrival) :
    (hub.after settings a).Sound settings.unit := by
  rcases after_cases bounded a with unchanged | ⟨e, member, e', readings, effect, same, changed⟩
  · rw [unchanged]
    exact sound
  · rw [changed]
    intro x stored
    rcases mem_upsert stored with rfl | other
    · exact (effect.sound same (sound e member)).touched a.now
    · exact sound x other

/-- After the first `n` of any messages, handled under one configuration, a hub of sound entities is
one. -/
theorem sound_afterAll (bounded : hub.FiniteBounds) (sound : hub.Sound settings.unit)
    (arrivals : List Arrival) (n : Nat) :
    (hub.afterAll settings (arrivals.take n)).Sound settings.unit := by
  generalize arrivals.take n = arrivals
  induction arrivals generalizing hub with
  | nil => exact sound
  | cons a rest ih => exact ih (finiteBounds_after bounded a) (sound_after bounded sound a)

/-- A thermostat without setpoints is sound, and is so when it has been given bounds. -/
theorem sound_afterAll_hallway :
    let settings := (Request.exposing .all).settings
    let hub := ofEntities [Entity.hallway]
    let arrivals := [Directive.mildHallway, Directive.warmerHallway].map fun d =>
      (⟨d.envelope, ⟨.zero, none⟩, ⟨.zero, .zero, ⟨1, 0⟩⟩, ⟨1, 0⟩, .none⟩ : Arrival)
    let later := hub.afterAll settings (arrivals.take 2)
    hub.FiniteBounds ∧ hub.Sound settings.unit ∧
      (later.get? Entity.hallway.id).bind (fun e => e.attributes.number? Key.targetTempLow) =
        some 20 ∧ later.Sound settings.unit := by
  intro settings hub arrivals later
  have sound : hub.Sound settings.unit := by
    intro e member
    obtain rfl := List.mem_singleton.1 member
    refine (Entity.sound_iff_of_climate rfl).2 ⟨?_, ?_, ?_⟩
    · intro p value found
      cases p <;> cases found
    · intro low high found
      cases found
    · intro value found
      cases found
  exact ⟨finiteBounds_hallway, sound, by decide +kernel,
    sound_afterAll finiteBounds_hallway sound arrivals 2⟩

end Hub

end HomeVoice
