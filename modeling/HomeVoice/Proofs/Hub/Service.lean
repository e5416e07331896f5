import HomeVoice.Bridge.Control.Climate
import HomeVoice.Bridge.Discovery
import HomeVoice.Proofs.Hub.Writes

/-!
# What services leave alone

A service writes the state of an entity and attributes from a fixed list. All other attributes say
what the device is and what it can do, and no service writes them. So an entity stays the same
device: it has the same id, becomes the same endpoint and has the same speeds and bounds.
-/

namespace HomeVoice

namespace Entity

theorem number?_withAttribute_self (e : Entity) (key : String) (value : AttributeValue) :
    (e.withAttribute key value).attributes.number? key = value.asNumber? :=
  congrArg (·.bind AttributeValue.asNumber?) (e.get?_withAttribute_self key value)

theorem int?_withAttribute_self (e : Entity) (key : String) (value : AttributeValue) :
    (e.withAttribute key value).attributes.int? key = value.asInt? :=
  congrArg (·.bind AttributeValue.asInt?) (e.get?_withAttribute_self key value)

theorem text?_withAttribute_self (e : Entity) (key : String) (value : AttributeValue) :
    (e.withAttribute key value).attributes.text? key = value.asText? :=
  congrArg (·.bind AttributeValue.asText?) (e.get?_withAttribute_self key value)

theorem flag_withAttribute_self (e : Entity) (key : String) (value : AttributeValue) :
    (e.withAttribute key value).attributes.flag key = value.isTruthy := by
  unfold Attributes.flag
  rw [get?_withAttribute_self]

/-- The bounds that an entity names are numbers that are finite. -/
def FiniteBounds (e : Entity) : Prop :=
  ∀ key ∈ [Key.minTemp, Key.maxTemp], ∀ x, e.attributes.number? key = some x → x.isFinite = true

/-- With finite bounds, setpoints are between finite numbers. -/
theorem FiniteBounds.setpointRange {e : Entity} (bounded : e.FiniteBounds)
    (unit : TemperatureUnit) :
    (Control.SetpointRange.ofEntity e unit).lowest.isFinite = true ∧
      (Control.SetpointRange.ofEntity e unit).highest.isFinite = true := by
  have named {key : String} (member : key ∈ [Key.minTemp, Key.maxTemp]) {default : Binary64}
      (finite : default.isFinite = true) :
      ((e.attributes.number? key).getD default).isFinite = true := by
    cases given : e.attributes.number? key with
    | none => exact finite
    | some x => exact bounded key member x given
  have lowest : (unit.ofCelsius Temperature.defaultLowest).isFinite = true := by
    cases unit <;> decide +kernel
  have highest : (unit.ofCelsius Temperature.defaultHighest).isFinite = true := by
    cases unit <;> decide +kernel
  exact ⟨named (by decide) lowest, named (by decide) highest⟩

/-- The attributes that services write. -/
def writtenKeys : List String := [
  Key.brightness, Key.colorTemperature, Key.rgbColor, Key.currentPosition, Key.speed,
  Key.temperature, Key.targetTempLow, Key.targetTempHigh, Key.operationMode, Key.volumeLevel,
  Key.volumeMuted, Key.source]

theorem writes_subset (domain : Domain) (service : String) :
    writes domain service ⊆ writtenKeys := by
  unfold writes
  split
  case h_1 =>
    cases domain
    case light | fan => decide
    all_goals exact List.nil_subset _
  all_goals decide

/-- Two snapshots of one device: they differ at most in the state, in attributes that services
write and in the time of the change. -/
structure SameDevice (e e' : Entity) : Prop where
  id : e'.id = e.id
  get? : ∀ key, key ∉ writtenKeys → e'.attributes.get? key = e.attributes.get? key

namespace SameDevice

variable {e e' e'' : Entity} {key : String}

theorem refl (e : Entity) : SameDevice e e :=
  ⟨rfl, fun _ _ => rfl⟩

/-- An entity that differs in attributes that services write is the same device. -/
theorem of_confined {keys : List String} (confined : Confined keys e e')
    (written : keys ⊆ writtenKeys) : SameDevice e e' :=
  ⟨confined.id, fun key notWritten => confined.others key fun member => notWritten (written member)⟩

theorem withAttribute (e : Entity) {key : String} (written : key ∈ writtenKeys)
    (value : AttributeValue) : SameDevice e (e.withAttribute key value) :=
  of_confined ((Confined.refl _ e).withAttribute written value) (List.Subset.refl _)

theorem turnedOn (e : Entity) (data : Dict Json) : SameDevice e (e.turnedOn data) :=
  of_confined (.turnedOn e data) (writes_subset e.domain "turn_on")

theorem turnedOff (e : Entity) : SameDevice e e.turnedOff :=
  of_confined (.turnedOff e) (List.nil_subset _)

/-- Whatever service is called on an entity, with whatever data, it stays the same device. -/
theorem serve {c : ServiceCall} (h : e.serve c = .ok e') : SameDevice e e' :=
  of_confined (.serve h) (writes_subset e.domain c.service)

theorem touched (same : SameDevice e e') (now : Timestamp) :
    SameDevice e { e' with lastUpdated := now } :=
  ⟨same.id, same.get?⟩

/-! ## What a device is and can do -/

variable (same : SameDevice e e')

include same

theorem domain : e'.domain = e.domain :=
  congrArg EntityId.domain same.id

theorem number? (notWritten : key ∉ writtenKeys) :
    e'.attributes.number? key = e.attributes.number? key :=
  congrArg (·.bind AttributeValue.asNumber?) (same.get? key notWritten)

theorem int? (notWritten : key ∉ writtenKeys) :
    e'.attributes.int? key = e.attributes.int? key :=
  congrArg (·.bind AttributeValue.asInt?) (same.get? key notWritten)

theorem text? (notWritten : key ∉ writtenKeys) :
    e'.attributes.text? key = e.attributes.text? key :=
  congrArg (·.bind AttributeValue.asText?) (same.get? key notWritten)

theorem texts? (notWritten : key ∉ writtenKeys) :
    e'.attributes.texts? key = e.attributes.texts? key :=
  congrArg (·.bind AttributeValue.asTexts?) (same.get? key notWritten)

theorem flag (notWritten : key ∉ writtenKeys) :
    e'.attributes.flag key = e.attributes.flag key := by
  unfold Attributes.flag
  rw [same.get? key notWritten]

theorem speedTable : e'.speedTable = e.speedTable := by
  unfold Entity.speedTable
  rw [same.texts? (by decide)]

theorem setpointRange (unit : TemperatureUnit) :
    Control.SetpointRange.ofEntity e' unit = Control.SetpointRange.ofEntity e unit := by
  unfold Control.SetpointRange.ofEntity
  rw [same.number? (by decide), same.number? (by decide)]

theorem finiteBounds (bounded : e.FiniteBounds) : e'.FiniteBounds := by
  have notWritten : ∀ key ∈ [Key.minTemp, Key.maxTemp], key ∉ writtenKeys := by decide
  intro key member x given
  rw [same.number? (notWritten key member)] at given
  exact bounded key member x given

theorem category? : e'.category? = e.category? := by
  unfold Entity.category?
  rw [same.domain, same.text? (by decide)]

theorem capabilities : e'.capabilities = e.capabilities := by
  unfold Entity.capabilities Attributes.features
  rw [same.domain, same.int? (by decide), same.flag (by decide), same.text? (by decide)]

/-- A device that has been served becomes the endpoint that it was before. -/
theorem endpoint? (presentation : Option Presentation) :
    e'.endpoint? presentation = e.endpoint? presentation := by
  unfold Entity.endpoint? Entity.name Entity.defaultDescription
  rw [same.category?, same.capabilities, same.text? (by decide), same.domain, same.id]

end SameDevice

end Entity

end HomeVoice
