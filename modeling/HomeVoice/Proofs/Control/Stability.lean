import HomeVoice.Proofs.Control.ReadBack
import HomeVoice.Proofs.Discovery.Endpoint
import Mathlib.Data.List.Basic

/-!
# Decisions that stand

Between the time when an entity is read and the time when it is called, others may have called it.
Most decisions stand all the same: they depend on what the device is and can do, which no service
writes. Only a directive that changes a value by a difference has to know the value.
-/

namespace HomeVoice

/-- The kinds of directives that change a value by a difference from the one that was read. -/
def DirectiveKind.relative : List DirectiveKind := [
  .adjustBrightness, .adjustPercentage, .adjustTargetTemperature, .adjustVolume,
  .increaseColorTemperature, .decreaseColorTemperature]

namespace Control

variable {k : DirectiveKind} {judge : Situation → Except Refusal Outcome} {e e' : Entity}

theorem percentageCall_congr (same : e.SameDevice e') (p : Payload) (u : TemperatureUnit)
    (now : Timestamp) (percentage : Int64) :
    percentageCall ⟨e', p, u, now⟩ percentage = percentageCall ⟨e, p, u, now⟩ percentage := by
  simp only [percentageCall, Situation.call, same.domain, same.id, same.speedTable]

theorem setpointOutcome_congr (id : e'.id = e.id) (p : Payload) (u : TemperatureUnit)
    (now : Timestamp) (setpoints : List (Setpoint × Binary64)) :
    setpointOutcome ⟨e', p, u, now⟩ setpoints = setpointOutcome ⟨e, p, u, now⟩ setpoints := by
  simp only [setpointOutcome, Situation.call, id]

/-- Two snapshots of one device get the same decision. Where a value is changed by a difference,
they must have the same attributes for it. -/
theorem judge_congr (route : k.route = .control judge) (same : e.SameDevice e')
    (unwritten : k ∈ DirectiveKind.relative → e'.attributes = e.attributes) (p : Payload)
    (u : TemperatureUnit) (now : Timestamp) :
    judge ⟨e', p, u, now⟩ = judge ⟨e, p, u, now⟩ := by
  have switched : powerCall e' = powerCall e := by
    funext state
    simp only [powerCall, same.domain, same.id]
  have percentage : percentageOutcome ⟨e', p, u, now⟩ = percentageOutcome ⟨e, p, u, now⟩ := by
    funext n
    simp only [percentageOutcome, percentageCall_congr same]
  have range : SetpointRange.ofEntity e' u = SetpointRange.ofEntity e u := same.setpointRange u
  have modes : e'.attributes.texts? Key.operationList = e.attributes.texts? Key.operationList :=
    same.texts? (by decide)
  have sources : e'.attributes.texts? Key.sourceList = e.attributes.texts? Key.sourceList :=
    same.texts? (by decide)
  cases k <;> cases route
  case turnOn | turnOff => simp only [power, switched]
  case setPercentage => exact congrArg (Except.bind _) percentage
  case setTargetTemperature =>
    simp only [setTargetTemperature, range, setpointOutcome_congr same.id]
  case setThermostatMode => simp only [setThermostatMode, modes, Situation.call, same.id]
  case selectInput => simp only [selectInput, sources, Situation.call, same.id]
  case adjustBrightness | adjustPercentage | adjustTargetTemperature | adjustVolume |
      increaseColorTemperature | decreaseColorTemperature =>
    obtain ⟨id, state, attributes, changed⟩ := e
    obtain ⟨id', state', attributes', changed'⟩ := e'
    obtain rfl : id' = id := same.id
    obtain rfl : attributes' = attributes := unwritten (by decide)
    rfl
  all_goals
    -- Of the device these need the id and no more.
    obtain ⟨id, state, attributes, changed⟩ := e
    obtain ⟨id', state', attributes', changed'⟩ := e'
    obtain rfl : id' = id := same.id
    rfl

end Control

namespace Entity

variable {e e' : Entity} {presentation : Option Presentation} {endpoint : Endpoint}
  {k : DirectiveKind}

/-- What is reported of a device with every answer to control is not changed by control. -/
theorem proactive_congr (same : e.SameDevice e') (shown : e.endpoint? presentation = some endpoint)
    (accepted : endpoint.accepts k = true) (unit : TemperatureUnit) :
    e'.proactive unit endpoint = e.proactive unit endpoint := by
  refine List.flatMap_congr ?_
  intro c kept
  obtain ⟨listed, proactive⟩ := List.mem_filter.1 kept
  have measures : c.interface = .temperatureSensor := by
    revert proactive
    cases c.interface <;> decide
  have climate : e.domain = .climate := climate_of_measures shown accepted listed measures
  refine List.filterMap_congr ?_
  intro name _
  rw [measures, Control.read?_measured same climate]

end Entity

end HomeVoice
