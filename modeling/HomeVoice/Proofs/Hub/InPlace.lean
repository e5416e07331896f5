import HomeVoice.Proofs.Fallible
import HomeVoice.Proofs.Hub.Map

/-!
# Services in place, as a whole

A service that is done where the entity is kept comes to what `Entity.serve` says in one piece: it
checks what it is given before it writes, so that a rejected one leaves the entity as it was. The
setpoints are the one service that finds out what is wrong after its writes, and it only finds
something wrong when it has written nothing.
-/

namespace HomeVoice

namespace Edit

variable {α β : Type}

/-- What comes of a change that is made as a whole or not at all. -/
def whole (e : Entity) (changed : Except Rejection Entity) : Except Rejection Unit × Entity :=
  match changed with
  | .ok e' => (.ok (), e')
  | .error rejection => (.error rejection, e)

theorem run_bind (x : Edit α) (f : α → Edit β) (e : Entity) :
    (x >>= f).run e =
      match x.run e with
      | (.ok a, e') => (f a).run e'
      | (.error rejection, e') => (.error rejection, e') := by
  unfold run ExceptT.run StateT.run
  simp only [bind, ExceptT.bind, ExceptT.mk, StateT.bind, ExceptT.bindCont]
  cases x e with
  | mk done e' => cases done <;> rfl

theorem run_get_bind (f : Entity → Edit α) (e : Entity) : (get >>= f).run e = (f e).run e :=
  rfl

/-! ## Each service -/

theorem run_setAttribute? (key : String) (value : Option AttributeValue) (e : Entity) :
    (setAttribute? key value).run e = (.ok (), e.withAttribute? key value) := by
  cases value <;> rfl

theorem run_turnOn (data : Dict Json) (e : Entity) :
    (turnOn data).run e = (.ok (), e.turnedOn data) := by
  unfold turnOn Entity.turnedOn
  rw [run_get_bind]
  cases e.domain
  case light | fan =>
    simp only [run_bind, run_setAttribute?]
    rfl
  all_goals rfl

theorem run_turnOff (e : Entity) : turnOff.run e = (.ok (), e.turnedOff) := by
  unfold turnOff Entity.turnedOff
  rw [run_get_bind]
  split <;> rfl

theorem run_setNumbers (data : Dict Json) (keys : List String) (e : Entity) :
    (setNumbers data keys).run e =
      (.ok (keys.any fun key => ((data.get? key).bind Json.number?).isSome),
        keys.foldl (fun e key => e.withAttribute? key
          ((data.get? key).bind Json.number? |>.map .number)) e) := by
  induction keys generalizing e with
  | nil => rfl
  | cons key rest ih =>
    simp only [setNumbers, run_bind, run_setAttribute?, ih]
    rfl

/-- Where no key is given as a number nothing is written. -/
theorem foldl_of_not_any {data : Dict Json} {keys : List String}
    (none : (keys.any fun key => ((data.get? key).bind Json.number?).isSome) = false) (e : Entity) :
    keys.foldl (fun e key => e.withAttribute? key
      ((data.get? key).bind Json.number? |>.map .number)) e = e := by
  induction keys with
  | nil => rfl
  | cons key rest ih =>
    obtain ⟨absent, others⟩ := Bool.or_eq_false_iff.1 none
    have absent := Option.not_isSome_iff_eq_none.1 (Bool.eq_false_iff.1 absent)
    rw [List.foldl_cons, absent]
    exact ih others

theorem run_setSetpoints (data : Dict Json) (e : Entity) :
    (setSetpoints data).run e =
      whole e
        (if Entity.hasSetpoint data then .ok (e.withSetpoints data) else .error .noTemperature) := by
  unfold setSetpoints
  rw [run_bind, run_setNumbers]
  cases given : Entity.hasSetpoint data with
  | true =>
    rw [if_pos rfl]
    unfold Entity.hasSetpoint at given
    simp only [given]
    rfl
  | false =>
    rw [if_neg Bool.false_ne_true]
    unfold Entity.hasSetpoint at given
    simp only [given, foldl_of_not_any given]
    rfl

/-- A service that writes once it has its argument. -/
theorem run_argument_bind (x : Except Rejection α) (f : α → Edit Unit) (g : α → Entity) (e : Entity)
    (done : ∀ a, (f a).run e = (.ok (), g a)) :
    (liftM x >>= f).run e = whole e (x.map g) := by
  cases x with
  | error rejection => rfl
  | ok a => exact done a

theorem run_serve (c : ServiceCall) (e : Entity) : (serve c).run e = whole e (e.serve c) := by
  unfold serve
  split
  case h_1 service =>
    rw [Entity.serve, service]
    exact run_turnOn c.data e
  case h_2 service =>
    rw [Entity.serve, service]
    exact run_turnOff e
  case h_7 service =>
    rw [Entity.serve, service]
    exact run_setSetpoints c.data e
  case h_5 service | h_6 service | h_8 service | h_11 service | h_14 service | h_20 service =>
    rw [Entity.serve, service]
    exact run_argument_bind _ _ _ _ fun _ => rfl
  case h_21 =>
    unfold Entity.serve
    split
    case h_21 => rfl
    all_goals contradiction
  all_goals
    next service =>
      rw [Entity.serve, service]
      rfl

end Edit

/-! ## Calls -/

/-- An entity after a call, or why it is rejected: what `Entity.apply` says, but for the error that
is made of a rejection. -/
def Entity.called (e : Entity) (c : ServiceCall) (now : Timestamp) : Except Rejection Entity :=
  if c.domain ≠ e.id.domainName ∧ c.domain ≠ ServiceCall.genericDomain then .error .otherDomain
  else (e.serve c).map fun served => { served with lastUpdated := now }

theorem Entity.apply_eq (e : Entity) (c : ServiceCall) (now : Timestamp) :
    e.apply c now = (e.called c now).mapError (Rejection.toError c) := by
  unfold apply called
  split
  · rfl
  · cases e.serve c <;> rfl

theorem Edit.run_call (c : ServiceCall) (now : Timestamp) (e : Entity) :
    (call c now).run e = whole e (e.called c now) := by
  unfold call Entity.called
  rw [run_get_bind]
  split
  · rfl
  · show (serve c >>= fun _ => modify fun e => { e with lastUpdated := now }).run e = _
    rw [run_bind, run_serve]
    cases e.serve c <;> rfl

/-- Storing an entity that is stored already changes nothing. -/
theorem insertEntity_of_mem {e : Entity} {l : List Entity} (ascending : AscendingIds l)
    (stored : e ∈ l) : insertEntity e l = l := by
  induction l with
  | nil => cases stored
  | cons x rest ih =>
    obtain ⟨before, ascending⟩ := List.pairwise_cons.1 ascending
    unfold insertEntity
    rcases List.mem_cons.1 stored with rfl | later
    · rw [if_neg (EntityId.lt_irrefl _), if_pos rfl]
    · have before := before e later
      have different : x.id ≠ e.id := fun same => EntityId.lt_irrefl _ (same ▸ before)
      rw [if_neg fun after => EntityId.lt_irrefl _ (EntityId.lt_trans before after),
        if_neg different, ih ascending later]

namespace Hub

variable {hub : Hub} {e : Entity}

theorem upsert_of_mem (stored : e ∈ hub.entities) : hub.upsert e = hub := by
  obtain ⟨entities, ascending⟩ := hub
  unfold upsert
  congr 1
  exact insertEntity_of_mem ascending stored

/-- A call that edits an entity where it is kept replaces the entity as a whole, or nothing. -/
theorem attempt_eq (hub : Hub) (c : ServiceCall) (now : Timestamp) :
    hub.attempt c now =
      match hub.call c now with
      | .ok hub' => (.ok (), hub')
      | .error error => (.error error, hub) := by
  unfold attempt call
  cases found : hub.get? c.target with
  | none => rfl
  | some e =>
    simp only [Edit.run_call, Entity.apply_eq]
    cases e.called c now with
    | ok e' => rfl
    | error rejection =>
      have kept := upsert_of_mem (get?_eq_some_iff.1 found).1
      simp only [Edit.whole, mapError_error, kept]
      rfl

end Hub

end HomeVoice
