import HomeVoice.Proofs.Hub.InPlace

/-!
# Which calls are accepted

The virtual hub looks at the domain that a call names and at the data that its service demands. It
does not look at what kind of device the service is for: a call that names the domain of its target,
or the generic one, has any service that there is done on any entity.
-/

namespace HomeVoice

/-- What a service demands of the data of a call. -/
inductive Demand where
  | nothing
  | number (key : String)
  | text (key : String)
  | boolean (key : String)
  | setpoint

namespace Demand

/-- Whether data is what is demanded. -/
def met (data : Dict Json) : Demand → Bool
  | .nothing => true
  | .number key => ((data.get? key).bind Json.number?).isSome
  | .text key => ((data.get? key).bind Json.str?).isSome
  | .boolean key => ((data.get? key).bind Json.bool?).isSome
  | .setpoint => Entity.setpointKeys.any fun key => ((data.get? key).bind Json.number?).isSome

/-- What the services demand, for each text that names one. -/
def ofService? (service : String) : Option Demand :=
  match service with
  | "turn_on" | "turn_off" | "open_cover" | "close_cover" | "lock" | "unlock" | "volume_up"
  | "volume_down" | "media_play" | "media_pause" | "media_stop" | "media_next_track"
  | "media_previous_track" => some .nothing
  | "set_cover_position" => some (.number Key.position)
  | "set_speed" => some (.text Key.speed)
  | "set_temperature" => some .setpoint
  | "set_operation_mode" => some (.text Key.operationMode)
  | "volume_set" => some (.number Key.volumeLevel)
  | "volume_mute" => some (.boolean Key.volumeMuted)
  | "select_source" => some (.text Key.source)
  | _ => none

end Demand

/-- Whether an argument is there decides whether a service that only needs it is done. -/
theorem ServiceCall.isSome_map_argument {α : Type} (c : ServiceCall) (key : String)
    (view : Json → Option α) (otherwise : Rejection) (f : α → Entity) :
    ((c.argument key view otherwise).map f).toOption.isSome =
      ((c.data.get? key).bind view).isSome := by
  unfold argument
  cases (c.data.get? key).bind view <;> rfl

namespace Entity

/-- A service is done when there is one of its name and the data is what it demands, whatever the
entity is. -/
theorem isSome_serve (e : Entity) (c : ServiceCall) :
    (e.serve c).toOption.isSome = (Demand.ofService? c.service).any (Demand.met c.data) := by
  unfold serve
  split
  case h_5 service | h_6 service | h_8 service | h_11 service | h_14 service | h_20 service =>
    rw [service]
    exact c.isSome_map_argument _ _ _ _
  case h_7 service =>
    rw [service]
    show _ = hasSetpoint c.data
    cases hasSetpoint c.data <;> rfl
  case h_21 =>
    unfold Demand.ofService?
    split
    case h_21 => rfl
    all_goals contradiction
  all_goals
    next service =>
      rw [service]
      rfl

/-- The hub takes a call for an entity: it names the domain of the entity or the generic one, there
is a service of its name, and the data is what that service demands. -/
structure Admits (e : Entity) (c : ServiceCall) : Prop where
  domain : c.domain = e.id.domainName ∨ c.domain = ServiceCall.genericDomain
  demand : (Demand.ofService? c.service).any (Demand.met c.data) = true

theorem isSome_called (e : Entity) (c : ServiceCall) (now : Timestamp) :
    (e.called c now).toOption.isSome ↔ e.Admits c := by
  have touched {x : Except Rejection Entity} :
      (x.map fun served => { served with lastUpdated := now }).toOption.isSome =
        x.toOption.isSome := by
    cases x <;> rfl
  unfold called
  split
  · next other =>
    constructor
    · intro accepted
      cases accepted
    · intro admits
      exact absurd admits.domain (not_or.2 other)
  · next own =>
    rw [touched, isSome_serve]
    constructor
    · intro demand
      exact ⟨by tauto, demand⟩
    · exact Admits.demand

end Entity

/-- A call is carried out exactly when the hub takes it for the entity, and otherwise it is rejected
and leaves the entity as it is. -/
theorem Edit.call_accepted_iff (c : ServiceCall) (now : Timestamp) (e : Entity) :
    ((∃ e', (call c now).run e = (.ok (), e')) ↔ e.Admits c) ∧
      ((∃ rejection, (call c now).run e = (.error rejection, e)) ↔ ¬ e.Admits c) := by
  rw [run_call, ← e.isSome_called c now]
  cases e.called c now with
  | ok e' => simp [whole, Except.toOption]
  | error rejection => simp [whole, Except.toOption]

/-! ## Services for other devices -/

namespace Entity

/-- The devices of a domain are meant to have a service. -/
def offers (domain : Domain) (service : String) : Bool :=
  match service with
  | "turn_on" | "turn_off" => true
  | "lock" | "unlock" => domain = .lock
  | "open_cover" | "close_cover" | "set_cover_position" => domain = .cover
  | "set_speed" => domain = .fan
  | "set_temperature" | "set_operation_mode" => domain = .climate
  | "volume_set" | "volume_up" | "volume_down" | "volume_mute" | "media_play" | "media_pause"
  | "media_stop" | "media_next_track" | "media_previous_track" | "select_source" =>
    domain = .mediaPlayer
  | _ => false

/-- A garage door that is open. -/
def garage : Entity :=
  ⟨⟨"cover", "garage", by decide, by decide, by decide⟩, "open", .empty, ⟨0, 0⟩⟩

end Entity

/-- The door is locked by whoever names its domain or the generic one. -/
theorem Edit.run_lock_garage {domain : String}
    (named : domain = "cover" ∨ domain = ServiceCall.genericDomain) :
    (call (.inDomain domain "lock" Entity.garage.id) ⟨1, 0⟩).run Entity.garage =
      (.ok (), { Entity.garage with state := "locked", lastUpdated := ⟨1, 0⟩ }) := by
  rcases named with rfl | rfl
  · rfl
  · rfl

/-- Calls of services that are meant for other devices are not always rejected, and neither are
calls in the generic domain of services other than turning on and off: a cover can be locked. -/
theorem Edit.misdirected_call_accepted :
    (¬ ∀ (c : ServiceCall) (now : Timestamp) (e : Entity),
        Entity.offers e.domain c.service = false →
          ∃ rejection, (call c now).run e = (.error rejection, e)) ∧
      ¬ ∀ (c : ServiceCall) (now : Timestamp) (e : Entity),
        c.domain = ServiceCall.genericDomain → c.service ∉ ["turn_on", "turn_off"] →
          ∃ rejection, (call c now).run e = (.error rejection, e) := by
  constructor
  · intro rejected
    obtain ⟨rejection, failed⟩ :=
      rejected (.inDomain "cover" "lock" Entity.garage.id) ⟨1, 0⟩ Entity.garage (by decide)
    rw [run_lock_garage (.inl rfl)] at failed
    cases congrArg Prod.fst failed
  · intro rejected
    obtain ⟨rejection, failed⟩ :=
      rejected (.inDomain ServiceCall.genericDomain "lock" Entity.garage.id) ⟨1, 0⟩ Entity.garage rfl
        (by decide)
    rw [run_lock_garage (.inr rfl)] at failed
    cases congrArg Prod.fst failed

end HomeVoice
