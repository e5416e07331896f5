import HomeVoice.Measure.Percent
import HomeVoice.Proofs.Binary64.Order

/-!
# Percentages at the hub

The hub has brightness and volume on scales of its own. A percentage that is put on such a scale is
within its bounds there, and reads back as the same percentage.
-/

namespace HomeVoice

/-- An integer beyond 64 bits is brought back to their end. -/
theorem toInt_ofIntClamp_eq (n : Int) :
    (Int64.ofIntClamp n).toInt = max Int64.minValue.toInt (min Int64.maxValue.toInt n) := by
  have ordered : Int64.minValue.toInt ≤ Int64.maxValue.toInt := by decide
  unfold Int64.ofIntClamp
  split
  · split
    · rw [Int64.toInt_ofIntLE]
      omega
    · omega
  · omega

namespace Percent

/-- An integer that is a percentage. -/
def IsPercentage (p : Int64) : Prop :=
  0 ≤ p ∧ p ≤ 100

theorem toInt_clamp (n : Int) : (clamp n).toInt = max 0 (min 100 n) :=
  Int64.toInt_ofInt_of_le (by omega) (by omega)

theorem isPercentage_iff {p : Int64} : IsPercentage p ↔ 0 ≤ p.toInt ∧ p.toInt ≤ 100 := by
  unfold IsPercentage
  rw [Int64.le_iff_toInt_le, Int64.le_iff_toInt_le]
  rfl

theorem isPercentage_clamp (n : Int) : IsPercentage (clamp n) := by
  rw [isPercentage_iff, toInt_clamp]
  omega

theorem clamp_toInt {p : Int64} (h : IsPercentage p) : clamp p.toInt = p := by
  have bounds := isPercentage_iff.1 h
  rw [← Int64.toInt_inj, toInt_clamp]
  omega

/-- A number that does not fit into 64 bits is as far out of range as the bound that stands for
it. -/
theorem clamp_ofIntClamp (n : Int) : clamp (Int64.ofIntClamp n).toInt = clamp n := by
  have lowest : Int64.minValue.toInt = -9223372036854775808 := rfl
  have highest : Int64.maxValue.toInt = 9223372036854775807 := rfl
  have same : max 0 (min 100 (Int64.ofIntClamp n).toInt) = max 0 (min 100 n) := by
    rw [toInt_ofIntClamp_eq]
    omega
  exact congrArg Int64.ofInt same

/-- A change that leaves the 64 bits comes to the same as one over all integers. -/
theorem shift_eq_clamp (p delta : Int64) : shift p delta = clamp (p.toInt + delta.toInt) :=
  clamp_ofIntClamp _

theorem shift_zero (p : Int64) : shift p 0 = clamp p.toInt :=
  (shift_eq_clamp p 0).trans (congrArg clamp (Int.add_zero p.toInt))

theorem isPercentage_shift (p delta : Int64) : IsPercentage (shift p delta) :=
  isPercentage_clamp _

theorem toInt_shift (p delta : Int64) :
    (shift p delta).toInt = max 0 (min 100 (p.toInt + delta.toInt)) := by
  rw [shift_eq_clamp, toInt_clamp]

/-- Changes that come one after another are the same over all integers. -/
theorem toInt_foldl_shift (p : Int64) (deltas : List Int64) :
    (deltas.foldl shift p).toInt =
      deltas.foldl (fun r delta => max 0 (min 100 (r + delta.toInt))) p.toInt :=
  (List.foldl_hom Int64.toInt fun p delta => (toInt_shift p delta).symm).symm

/-- What holds of the hundred and one percentages holds of every integer that is one. -/
theorem IsPercentage.forall {P : Int64 → Prop} (each : ∀ i : Fin 101, P (.ofInt (i : Nat)))
    {p : Int64} (h : IsPercentage p) : P p := by
  have bounds := isPercentage_iff.1 h
  have same : Int64.ofInt (p.toInt.toNat : Nat) = p := by
    rw [Int.toNat_of_nonneg bounds.1, Int64.ofInt_toInt]
  exact same ▸ each ⟨p.toInt.toNat, by omega⟩

/-! ## Positions -/

/-- A percentage that is sent as a number is received as the same integer. -/
theorem roundToInt64_ofInt {p : Int64} (h : IsPercentage p) :
    (Binary64.ofInt p.toInt).roundToInt64 = p :=
  h.forall (P := fun p => (Binary64.ofInt p.toInt).roundToInt64 = p) (by decide +kernel)

/-! ## Brightness -/

theorem ofBrightness_toBrightness {p : Int64} (h : IsPercentage p) :
    ofBrightness (.ofInt64 (toBrightness p)) = p :=
  h.forall (P := fun p => ofBrightness (.ofInt64 (toBrightness p)) = p) (by decide +kernel)

theorem toBrightness_clamp (n : Int64) : toBrightness (clamp n.toInt) = toBrightness n := by
  unfold toBrightness
  rw [clamp_toInt (isPercentage_clamp _)]

/-- Whatever is asked for, the brightness of the hub is a byte. -/
theorem toBrightness_within (n : Int64) : 0 ≤ toBrightness n ∧ toBrightness n ≤ 255 := by
  rw [← toBrightness_clamp]
  exact (isPercentage_clamp n.toInt).forall
    (P := fun p => 0 ≤ toBrightness p ∧ toBrightness p ≤ 255) (by decide +kernel)

/-! ## Volume -/

/-- Percentages are brought between 0 and 100 before they become a level. -/
theorem toVolumeLevel_clamp (n : Int64) : toVolumeLevel (clamp n.toInt) = toVolumeLevel n := by
  unfold toVolumeLevel
  rw [clamp_toInt (isPercentage_clamp _)]

/-- Whatever is asked for, the volume level is between silence and full volume. -/
theorem toVolumeLevel_within (n : Int64) : 0 ≤ toVolumeLevel n ∧ toVolumeLevel n ≤ 1 := by
  rw [← toVolumeLevel_clamp]
  exact (isPercentage_clamp n.toInt).forall
    (P := fun p => 0 ≤ toVolumeLevel p ∧ toVolumeLevel p ≤ 1) (by decide +kernel)

theorem isFinite_toVolumeLevel (n : Int64) : (toVolumeLevel n).isFinite = true :=
  have within := toVolumeLevel_within n
  Binary64.isFinite_of_between (by decide +kernel) (by decide +kernel) within.1 within.2

/-- A volume level is a whole number of hundredths. -/
theorem toVolumeLevel_eq_div (n : Int64) :
    ∃ k : Nat, k ≤ 100 ∧ toVolumeLevel n = Binary64.ofInt k / 100 := by
  have bounds := isPercentage_iff.1 (isPercentage_clamp n.toInt)
  refine ⟨(clamp n.toInt).toInt.toNat, by omega, ?_⟩
  rw [Int.toNat_of_nonneg bounds.1]
  rfl

theorem ofVolumeLevel_toVolumeLevel (n : Int64) :
    ofVolumeLevel (toVolumeLevel n) = clamp n.toInt := by
  rw [← toVolumeLevel_clamp]
  exact (isPercentage_clamp n.toInt).forall
    (P := fun p => ofVolumeLevel (toVolumeLevel p) = p) (by decide +kernel)

/-- A volume that is moved in levels moves in percent as it should. -/
theorem ofVolumeLevel_adjustVolumeLevel (level : Binary64) (delta : Int64) :
    ofVolumeLevel (adjustVolumeLevel level delta) = shift (ofVolumeLevel level) delta := by
  unfold adjustVolumeLevel shift
  rw [ofVolumeLevel_toVolumeLevel]

end Percent

end HomeVoice
