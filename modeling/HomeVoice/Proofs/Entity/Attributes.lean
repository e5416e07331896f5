import HomeVoice.Entity.Attributes
import HomeVoice.Proofs.Text.Number

/-!
# Attributes that are required

A required attribute is refused as missing when there is none of its name, and as invalid when there
is one that has not the view which is asked for. The two numeric views are had by the same values: an
attribute can be read as an integer exactly when it can be read as a number.
-/

namespace HomeVoice

namespace AttributeValue

variable {v : AttributeValue}

/-- The value is a number, or a text that is one but for white space around it. -/
def IsNumeric : AttributeValue → Prop
  | .int _ | .number _ => True
  | .text s => Text.IsNumber (Text.trim s.toList)
  | .flag _ | .json _ => False

theorem isSome_asNumber?_iff : v.asNumber?.isSome = true ↔ v.IsNumeric := by
  cases v with
  | text s => exact Text.isSome_readNumber?_iff
  | _ => simp [asNumber?, IsNumeric]

theorem isSome_asInt?_iff : v.asInt?.isSome = true ↔ v.IsNumeric := by
  cases v with
  | text s =>
    simp only [asInt?, IsNumeric]
    cases read : Text.readInt64? (Text.trim s.toList) with
    | some n =>
      -- What is in range was read as an integer of any size before.
      have integer : (Text.readInteger? (Text.trim s.toList)).isSome = true := by
        unfold Text.readInt64? at read
        cases found : Text.readInteger? (Text.trim s.toList) with
        | none => simp [found] at read
        | some n => rfl
      exact iff_of_true rfl (Text.isSome_readInteger?_iff.1 integer).isNumber
    | none => rw [Option.isSome_map, Text.isSome_readNumber?_iff]
  | _ => simp [asInt?, IsNumeric]

end AttributeValue

namespace Attributes

variable {α : Type} {view : AttributeValue → Option α} {a : Attributes} {key : String}

theorem require_eq_ok_iff {x : α} : a.require view key = .ok x ↔ (a.get? key).bind view = some x := by
  unfold require
  cases a.get? key with
  | none => simp
  | some v =>
    rw [Option.bind_some]
    cases found : view v <;> simp [found]

/-- A required attribute is missing when there is none, and invalid when it has not the view. -/
theorem require_eq_error {fault : AttributeFault} :
    a.require view key = .error fault ↔
      a.get? key = none ∧ fault = .missing key ∨
        ∃ v, a.get? key = some v ∧ view v = none ∧ fault = .invalid key := by
  unfold require
  cases a.get? key with
  | none => simp [eq_comm]
  | some v => cases found : view v <;> simp [found, eq_comm]

/-- An attribute that is required is refused exactly when there is none that can be used. -/
theorem require_eq_error_iff :
    (∃ fault, a.require view key = .error fault) ↔ (a.get? key).bind view = none := by
  simp only [require_eq_error]
  cases a.get? key <;> simp

/-- Under two views that the same values have, the same attributes can be required. -/
theorem exists_require_eq_ok_congr {β : Type} {view' : AttributeValue → Option β}
    (same : ∀ v, (view v).isSome = true ↔ (view' v).isSome = true) :
    (∃ x, a.require view key = .ok x) ↔ ∃ y, a.require view' key = .ok y := by
  simp only [require_eq_ok_iff, ← Option.isSome_iff_exists]
  cases a.get? key with
  | none => rfl
  | some v => exact same v

/-- Under two views that the same values have, attributes are refused with the same faults. -/
theorem require_eq_error_congr {β : Type} {view' : AttributeValue → Option β}
    (same : ∀ v, (view v).isSome = true ↔ (view' v).isSome = true) {fault : AttributeFault} :
    a.require view key = .error fault ↔ a.require view' key = .error fault := by
  have unusable (v : AttributeValue) : view v = none ↔ view' v = none := by
    rw [← Option.not_isSome_iff_eq_none, ← Option.not_isSome_iff_eq_none, same v]
  simp only [require_eq_error, unusable]

/-- A value can be read as an integer exactly when it can be read as a number: when it is one, or is
a text that spells one. So an attribute is usable in both ways or in neither, whether it is asked for
or required, and when it is required in vain the fault is the same: it is missing exactly when there
is no attribute of the name, and invalid exactly when there is one that is no number. -/
theorem numeric_views_agree (a : Attributes) (key : String) :
    (∀ v : AttributeValue, (v.asInt?.isSome = true ↔ v.asNumber?.isSome = true) ∧
      (v.asNumber?.isSome = true ↔ v.IsNumeric)) ∧
    ((∃ n, a.requireInt key = .ok n) ↔ ∃ x, a.requireNumber key = .ok x) ∧
    ((∃ x, a.requireNumber key = .ok x) ↔ ∃ v, a.get? key = some v ∧ v.IsNumeric) ∧
    ((a.int? key).isSome = true ↔ ∃ n, a.requireInt key = .ok n) ∧
    ((a.number? key).isSome = true ↔ ∃ x, a.requireNumber key = .ok x) ∧
    ∀ fault, (a.requireInt key = .error fault ↔ a.requireNumber key = .error fault) ∧
      (a.requireNumber key = .error fault ↔
        a.get? key = none ∧ fault = .missing key ∨
          ∃ v, a.get? key = some v ∧ ¬v.IsNumeric ∧ fault = .invalid key) := by
  have same (v : AttributeValue) : v.asInt?.isSome = true ↔ v.asNumber?.isSome = true :=
    AttributeValue.isSome_asInt?_iff.trans AttributeValue.isSome_asNumber?_iff.symm
  have unusable (v : AttributeValue) : v.asNumber? = none ↔ ¬v.IsNumeric := by
    rw [← Option.not_isSome_iff_eq_none, AttributeValue.isSome_asNumber?_iff]
  refine ⟨fun v => ⟨same v, AttributeValue.isSome_asNumber?_iff⟩,
    exists_require_eq_ok_congr same, ?_, ?_, ?_, ?_⟩
  · simp only [requireNumber, require_eq_ok_iff, ← Option.isSome_iff_exists]
    cases a.get? key with
    | none => simp
    | some v => simpa using AttributeValue.isSome_asNumber?_iff
  · simp only [requireInt, require_eq_ok_iff, ← Option.isSome_iff_exists]
    rfl
  · simp only [requireNumber, require_eq_ok_iff, ← Option.isSome_iff_exists]
    rfl
  · intro fault
    refine ⟨require_eq_error_congr same, ?_⟩
    rw [requireNumber, require_eq_error]
    simp only [unusable]

end Attributes

end HomeVoice
