import HomeVoice.Proofs.Hub.InPlace

/-!
# What services write

Each service writes the state of an entity and a few attributes of its own. Nothing else differs
after it, and no attribute is gone.
-/

namespace HomeVoice

namespace Entity

@[simp] theorem get?_withAttribute_self (e : Entity) (key : String) (value : AttributeValue) :
    (e.withAttribute key value).attributes.get? key = some value :=
  Dict.get?_insert_self key value e.attributes.entries

theorem get?_withAttribute_of_ne (e : Entity) {key other : String} (h : other ≠ key)
    (value : AttributeValue) :
    (e.withAttribute key value).attributes.get? other = e.attributes.get? other :=
  Dict.get?_insert_of_ne h value e.attributes.entries

/-- The attributes that a service writes on an entity of a domain. -/
def writes (domain : Domain) (service : String) : List String :=
  match service with
  | "turn_on" =>
    match domain with
    | .light => [Key.brightness, Key.colorTemperature, Key.rgbColor]
    | .fan => [Key.speed]
    | _ => []
  | "open_cover" | "close_cover" | "set_cover_position" => [Key.currentPosition]
  | "set_speed" => [Key.speed]
  | "set_temperature" => setpointKeys
  | "set_operation_mode" => [Key.operationMode]
  | "volume_set" | "volume_up" | "volume_down" => [Key.volumeLevel]
  | "volume_mute" => [Key.volumeMuted]
  | "select_source" => [Key.source]
  | _ => []

/-- From `e` to `e'` nothing has changed but the state, the time and attributes of some keys, and
no attribute is gone. -/
structure Confined (keys : List String) (e e' : Entity) : Prop where
  id : e'.id = e.id
  others : ∀ key, key ∉ keys → e'.attributes.get? key = e.attributes.get? key
  kept : ∀ key, (e.attributes.get? key).isSome → (e'.attributes.get? key).isSome

namespace Confined

variable {keys : List String} {e e' : Entity} {key : String}

theorem refl (keys : List String) (e : Entity) : Confined keys e e :=
  ⟨rfl, fun _ _ => rfl, fun _ present => present⟩

theorem withState (confined : Confined keys e e') (state : String) :
    Confined keys e (e'.withState state) :=
  ⟨confined.id, confined.others, confined.kept⟩

theorem touched (confined : Confined keys e e') (now : Timestamp) :
    Confined keys e { e' with lastUpdated := now } :=
  ⟨confined.id, confined.others, confined.kept⟩

theorem withAttribute (confined : Confined keys e e') (written : key ∈ keys)
    (value : AttributeValue) : Confined keys e (e'.withAttribute key value) where
  id := confined.id
  others := by
    intro other notWritten
    have different : other ≠ key := by
      rintro rfl
      exact notWritten written
    rw [get?_withAttribute_of_ne e' different]
    exact confined.others other notWritten
  kept := by
    intro other present
    by_cases same : other = key
    · rw [same, get?_withAttribute_self]
      rfl
    · rw [get?_withAttribute_of_ne e' same]
      exact confined.kept other present

theorem withAttribute? (confined : Confined keys e e') (written : key ∈ keys)
    (value : Option AttributeValue) : Confined keys e (e'.withAttribute? key value) := by
  cases value with
  | none => exact confined
  | some value => exact confined.withAttribute written value

theorem turnedOn (e : Entity) (data : Dict Json) :
    Confined (writes e.domain "turn_on") e (e.turnedOn data) := by
  unfold Entity.turnedOn
  cases e.domain
  case light =>
    have confined := refl [Key.brightness, Key.colorTemperature, Key.rgbColor] e
    refine (((confined.withAttribute? ?_ _).withAttribute? ?_ _).withAttribute? ?_ _).withState "on"
    all_goals decide
  case fan => exact ((refl [Key.speed] e).withAttribute? (by decide) _).withState "on"
  case scene => exact refl [] e
  all_goals exact (refl [] e).withState "on"

theorem turnedOff (e : Entity) : Confined [] e e.turnedOff := by
  unfold Entity.turnedOff
  split
  · exact refl [] e
  · exact (refl [] e).withState "off"

theorem withSetpoints (e : Entity) (data : Dict Json) :
    Confined setpointKeys e (e.withSetpoints data) := by
  refine (((refl _ e).withAttribute? ?_ _).withAttribute? ?_ _).withAttribute? ?_ _
  all_goals decide

/-- A service writes its own attributes and no others. -/
theorem serve {c : ServiceCall} (served : e.serve c = .ok e') :
    Confined (writes e.domain c.service) e e' := by
  have alone (key : String) (state : String) (value : AttributeValue) :
      Confined [key] e ((e.withState state).withAttribute key value) :=
    ((refl [key] e).withState state).withAttribute List.mem_cons_self value
  have quiet (key : String) (value : AttributeValue) :
      Confined [key] e (e.withAttribute key value) :=
    (refl [key] e).withAttribute List.mem_cons_self value
  unfold Entity.serve at served
  split at served
  case h_1 service =>
    cases served
    rw [service]
    exact turnedOn e c.data
  case h_2 service =>
    cases served
    rw [service]
    exact turnedOff e
  case h_3 service | h_4 service =>
    cases served
    rw [service]
    exact alone Key.currentPosition _ _
  case h_5 service | h_6 service | h_8 service =>
    obtain ⟨argument, -, rfl⟩ := map_eq_ok.1 served
    rw [service]
    exact alone _ _ _
  case h_7 service =>
    split at served
    · cases served
      rw [service]
      exact withSetpoints e c.data
    · cases served
  case h_9 service | h_10 service | h_15 service | h_16 service | h_17 service =>
    cases served
    rw [service]
    exact (refl [] e).withState _
  case h_11 service | h_14 service | h_20 service =>
    obtain ⟨argument, -, rfl⟩ := map_eq_ok.1 served
    rw [service]
    exact quiet _ _
  case h_12 service | h_13 service =>
    cases served
    rw [service]
    exact quiet _ _
  case h_18 service | h_19 service =>
    cases served
    rw [service]
    exact refl [] e
  case h_21 => cases served

theorem called {c : ServiceCall} {now : Timestamp} (called : e.called c now = .ok e') :
    Confined (writes e.domain c.service) e e' := by
  unfold Entity.called at called
  split at called
  · cases called
  · obtain ⟨served, h, rfl⟩ := map_eq_ok.1 called
    exact (serve h).touched now

end Confined

end Entity

/-- A call with whatever data is rejected and leaves the entity as it is, field by field, or it is
carried out and has written nothing but the state, the time and the attributes of its service. -/
theorem Edit.call_confined (c : ServiceCall) (now : Timestamp) (e : Entity) :
    (∃ rejection, (call c now).run e = (.error rejection, e)) ∨
      ∃ e', (call c now).run e = (.ok (), e') ∧
        Entity.Confined (Entity.writes e.domain c.service) e e' := by
  rw [run_call]
  cases called : e.called c now with
  | error rejection => exact .inl ⟨rejection, rfl⟩
  | ok e' => exact .inr ⟨e', rfl, .called called⟩

end HomeVoice
