import HomeVoice.Binary64.Basic
import Mathlib.Algebra.Order.Field.Power
import Mathlib.Algebra.Order.Floor.Ring
import Mathlib.Data.Rat.Floor
import Mathlib.Tactic.Linarith
import Mathlib.Tactic.Positivity

/-!
# Rounding to the nearest number

A magnitude is rounded to a whole multiple of the unit of its binade, and there is no finite number
that is nearer: in this binade and above it all numbers are such multiples, and the numbers below it
are farther away than its least one.
-/

namespace HomeVoice.Binary64

/-- No finite number is nearer to a rational. -/
def Nearest (x : Binary64) (q : Rat) : Prop :=
  ∃ v, x.toRat? = some v ∧ ∀ (y : Binary64) (w : Rat), y.toRat? = some w → |v - q| ≤ |w - q|

/-! ## Whole numbers -/

theorem nearestEven_error {q : Rat} (nonneg : 0 ≤ q) : |(nearestEven q : Rat) - q| ≤ 1 / 2 := by
  have below : ((q.floor.toNat : Nat) : Rat) = (⌊q⌋ : Int) := by
    have : ((⌊q⌋.toNat : Nat) : Int) = ⌊q⌋ := Int.toNat_of_nonneg (Int.floor_nonneg.2 nonneg)
    exact_mod_cast this
  have least := Int.floor_le q
  have next := Int.lt_floor_add_one q
  unfold nearestEven
  simp only [below]
  rw [abs_le]
  split
  · next down =>
    have half : q - ⌊q⌋ ≤ 1 / 2 := by
      rcases down with less | ⟨tie, -⟩
      · exact less.le
      · exact tie.le
    rw [below]
    constructor <;> linarith
  · next up =>
    have half : 1 / 2 ≤ q - ⌊q⌋ := not_lt.1 fun less => up (.inl less)
    rw [Nat.cast_add, below, Nat.cast_one]
    constructor <;> linarith

/-- Two whole numbers are one apart at least, so that none is nearer than one at most a half away. -/
theorem abs_sub_le_of_error {q : Rat} {n k : Int} (error : |(n : Rat) - q| ≤ 1 / 2) :
    |(n : Rat) - q| ≤ |(k : Rat) - q| := by
  by_cases same : n = k
  · rw [same]
  · have apart : (1 : Rat) ≤ |(n : Rat) - k| := by
      have : 1 ≤ |n - k| := Int.one_le_abs (sub_ne_zero.2 same)
      exact_mod_cast this
    have triangle := abs_sub_le (n : Rat) q k
    rw [abs_sub_comm q] at triangle
    linarith

theorem nearestEven_le {q : Rat} (nonneg : 0 ≤ q) (k : Int) :
    |(nearestEven q : Rat) - q| ≤ |(k : Rat) - q| := by
  have error := nearestEven_error nonneg
  rw [← Int.cast_natCast] at error ⊢
  exact abs_sub_le_of_error error

/-- Rounding does not cross a whole number. -/
theorem nearestEven_le_natCast {q : Rat} {n : Nat} (nonneg : 0 ≤ q) (le : q ≤ n) :
    nearestEven q ≤ n := by
  have error := (abs_le.1 (nearestEven_error nonneg)).2
  have less : (nearestEven q : Rat) < (n + 1 : Nat) := by
    push_cast
    linarith
  exact Nat.lt_succ_iff.1 (by exact_mod_cast less)

theorem natCast_le_nearestEven {q : Rat} {n : Nat} (le : (n : Rat) ≤ q) : n ≤ nearestEven q := by
  have error := (abs_le.1 (nearestEven_error ((Nat.cast_nonneg n).trans le))).1
  have less : (n : Rat) < (nearestEven q + 1 : Nat) := by
    push_cast
    linarith
  exact Nat.lt_succ_iff.1 (by exact_mod_cast less)

/-! ## Binades -/

theorem two_zpow_pos (e : Int) : (0 : Rat) < 2 ^ e :=
  zpow_pos two_pos e

theorem two_zpow_add_one (e : Int) : (2 : Rat) ^ (e + 1) = 2 ^ e * 2 :=
  zpow_add_one₀ two_ne_zero e

theorem two_zpow_mono {e e' : Int} (le : e ≤ e') : (2 : Rat) ^ e ≤ 2 ^ e' :=
  zpow_le_zpow_right₀ one_le_two le

/-- The lengths of two numbers determine the binade of their quotient up to one. -/
theorem quotient_between {a b : Nat} (ha : a ≠ 0) (hb : b ≠ 0) :
    (2 : Rat) ^ ((a.log2 : Int) - b.log2 - 1) < a / b ∧
      (a / b : Rat) < 2 ^ ((a.log2 : Int) - b.log2 + 1) := by
  have aLow : 2 ^ a.log2 ≤ a := Nat.log2_self_le ha
  have aHigh : a < 2 ^ (a.log2 + 1) := Nat.lt_log2_self
  have bLow : 2 ^ b.log2 ≤ b := Nat.log2_self_le hb
  have bHigh : b < 2 ^ (b.log2 + 1) := Nat.lt_log2_self
  have bPos : (0 : Rat) < b := by exact_mod_cast Nat.pos_of_ne_zero hb
  constructor
  · rw [show (a.log2 : Int) - b.log2 - 1 = (a.log2 : Int) - (b.log2 + 1 : Nat) by omega,
      zpow_sub₀ two_ne_zero, zpow_natCast, zpow_natCast, div_lt_div_iff₀ (by positivity) bPos]
    have := Nat.mul_lt_mul_of_le_of_lt aLow bHigh (Nat.pos_of_ne_zero ha)
    exact_mod_cast this
  · rw [show (a.log2 : Int) - b.log2 + 1 = ((a.log2 + 1 : Nat) : Int) - b.log2 by omega,
      zpow_sub₀ two_ne_zero, zpow_natCast, zpow_natCast, div_lt_div_iff₀ bPos (by positivity)]
    have := Nat.mul_lt_mul_of_lt_of_le aHigh bLow (Nat.pos_of_ne_zero hb)
    exact_mod_cast this

/-- A positive rational lies in its binade. -/
theorem binade_spec {q : Rat} (pos : 0 < q) : 2 ^ binade q ≤ q ∧ q < 2 ^ (binade q + 1) := by
  have numPos : 0 < q.num := Rat.num_pos.2 pos
  have num : ((q.num.natAbs : Nat) : Int) = q.num := Int.natAbs_of_nonneg numPos.le
  have quotient : (q.num.natAbs : Nat) / (q.den : Rat) = q := by
    rw [← Int.cast_natCast, num]
    exact Rat.num_div_den q
  obtain ⟨low, high⟩ := quotient_between (Int.natAbs_ne_zero.2 numPos.ne') q.den_nz
  rw [quotient] at low high
  unfold binade
  simp only
  split
  · next less =>
    refine ⟨low.le, ?_⟩
    rwa [sub_add_cancel]
  · next notLess => exact ⟨not_lt.1 notLess, high⟩

/-! ## Magnitudes -/

theorem magnitude_of_lt {rank : Nat} (low : rank < binadeSize) :
    magnitude rank = rank * 2 ^ (-1074 : Int) :=
  if_pos low

theorem magnitude_of_le {rank : Nat} (high : binadeSize ≤ rank) :
    magnitude rank = (binadeSize + rank % binadeSize : Nat) *
      2 ^ ((rank / binadeSize : Nat) - 1075 : Int) :=
  if_neg (Nat.not_lt.2 high)

/-- The magnitude of the rank that is a number of steps into a binade; after the last step comes the
next binade. -/
theorem magnitude_add {e m : Nat} (atMost : m ≤ 2 * binadeSize) (full : e = 0 ∨ binadeSize ≤ m) :
    magnitude (e * binadeSize + m) = m * 2 ^ ((e : Int) - 1074) := by
  rcases Nat.lt_or_ge (e * binadeSize + m) binadeSize with low | high
  · obtain rfl : e = 0 := by omega
    rw [magnitude_of_lt low]
    simp
  · rw [magnitude_of_le high]
    unfold binadeSize at *
    rcases Nat.lt_or_eq_of_le atMost with inside | rfl
    · rw [show (e * 4503599627370496 + m) / 4503599627370496 = e + 1 by omega,
        show 4503599627370496 + (e * 4503599627370496 + m) % 4503599627370496 = m by omega]
      congr 2
      omega
    · rw [show (e * 4503599627370496 + 2 * 4503599627370496) / 4503599627370496 = e + 2 by omega,
        show (e * 4503599627370496 + 2 * 4503599627370496) % 4503599627370496 = 0 by omega,
        show ((e + 2 : Nat) : Int) - 1075 = (e - 1074) + 1 by omega, two_zpow_add_one]
      push_cast
      ring

/-- Every magnitude is a whole multiple of a unit, or less than the least one of its binade. -/
theorem magnitude_cases (e rank : Nat) :
    (∃ k : Nat, magnitude rank = k * 2 ^ ((e : Int) - 1074)) ∨
      0 < e ∧ magnitude rank < binadeSize * 2 ^ ((e : Int) - 1074) := by
  rcases Nat.lt_or_ge rank binadeSize with low | high
  · rw [magnitude_of_lt low]
    rcases Nat.eq_zero_or_pos e with rfl | pos
    · exact .inl ⟨rank, by simp⟩
    · refine .inr ⟨pos, ?_⟩
      have less : (rank : Rat) < binadeSize := by exact_mod_cast low
      have wider : (2 : Rat) ^ (-1074 : Int) ≤ 2 ^ ((e : Int) - 1074) := two_zpow_mono (by omega)
      exact mul_lt_mul less wider (two_zpow_pos _) (Nat.cast_nonneg _)
  · rw [magnitude_of_le high]
    have mod : rank % binadeSize < binadeSize := Nat.mod_lt _ (by decide)
    have div : 0 < rank / binadeSize := Nat.div_pos high (by decide)
    generalize rank % binadeSize = rest, rank / binadeSize = place at *
    rcases Nat.lt_or_ge e place with above | below
    · -- The steps of this binade are a power of two times as wide as the unit.
      obtain ⟨wide, rfl⟩ : ∃ wide, place = e + 1 + wide := ⟨place - (e + 1), by omega⟩
      refine .inl ⟨(binadeSize + rest) * 2 ^ wide, ?_⟩
      rw [show ((e + 1 + wide : Nat) : Int) - 1075 = (e - 1074) + (wide : Int) by omega,
        zpow_add₀ two_ne_zero, zpow_natCast]
      push_cast
      ring
    · refine .inr ⟨by omega, ?_⟩
      have less : ((binadeSize + rest : Nat) : Rat) < binadeSize * 2 := by
        have : binadeSize + rest < binadeSize * 2 := by omega
        exact_mod_cast this
      calc ((binadeSize + rest : Nat) : Rat) * 2 ^ ((place : Int) - 1075)
          < binadeSize * 2 * 2 ^ ((place : Int) - 1075) :=
            mul_lt_mul_of_pos_right less (two_zpow_pos _)
        _ = binadeSize * 2 ^ ((place : Int) - 1075 + 1) := by rw [two_zpow_add_one]; ring
        _ ≤ binadeSize * 2 ^ ((e : Int) - 1074) :=
            mul_le_mul_of_nonneg_left (two_zpow_mono (by omega)) (Nat.cast_nonneg _)

/-! ## Rounding -/

theorem binadeSize_mul (e : Int) : (binadeSize : Rat) * 2 ^ e = 2 ^ (e + 52) := by
  rw [zpow_add₀ two_ne_zero, mul_comm]
  norm_num

/-- The unit that a positive rational is rounded to whole multiples of, and how many of them it is
rounded to: as many as there are in a binade, but for the lowest one. -/
theorem nearestRank_spec {q : Rat} (pos : 0 < q) :
    ∃ e : Nat, (e : Int) = max 0 (binade q + 1022) ∧
      (e = 0 ∨ binadeSize * 2 ^ ((e : Int) - 1074) ≤ q) ∧ q < 2 * binadeSize * 2 ^ ((e : Int) - 1074) ∧
      nearestRank q = e * binadeSize + nearestEven (q / 2 ^ ((e : Int) - 1074)) := by
  obtain ⟨low, high⟩ := binade_spec pos
  let unit := max (-1074) (binade q - 52)
  have place : ((unit + 1074).toNat : Int) = unit + 1074 := Int.toNat_of_nonneg (by omega)
  have unit_eq : ((unit + 1074).toNat : Int) - 1074 = unit := by omega
  refine ⟨(unit + 1074).toNat, by omega, ?_, ?_, ?_⟩
  · rw [unit_eq, binadeSize_mul]
    rcases Int.lt_or_le (-1074) unit with above | lowest
    · refine .inr ((two_zpow_mono ?_).trans low)
      omega
    · exact .inl (by omega)
  · rw [unit_eq, mul_assoc, binadeSize_mul, mul_comm, ← two_zpow_add_one]
    exact high.trans_le (two_zpow_mono (by omega))
  · rw [unit_eq, nearestRank, if_neg pos.ne']

/-- At most twice as many units as there are in a binade: then the next one begins. -/
theorem steps_le {q : Rat} (pos : 0 < q) {e : Nat}
    (high : q < 2 * binadeSize * 2 ^ ((e : Int) - 1074)) :
    nearestEven (q / 2 ^ ((e : Int) - 1074)) ≤ 2 * binadeSize := by
  have unitPos := two_zpow_pos ((e : Int) - 1074)
  refine nearestEven_le_natCast (div_nonneg pos.le unitPos.le) ?_
  rw [div_le_iff₀ unitPos]
  push_cast
  exact high.le

/-- The magnitude of the rank that a positive rational is rounded to. -/
theorem magnitude_nearestRank {q : Rat} (pos : 0 < q) {e : Nat}
    (low : e = 0 ∨ binadeSize * 2 ^ ((e : Int) - 1074) ≤ q)
    (high : q < 2 * binadeSize * 2 ^ ((e : Int) - 1074)) :
    magnitude (e * binadeSize + nearestEven (q / 2 ^ ((e : Int) - 1074))) =
      nearestEven (q / 2 ^ ((e : Int) - 1074)) * 2 ^ ((e : Int) - 1074) := by
  refine magnitude_add (steps_le pos high) (low.imp_right fun full => natCast_le_nearestEven ?_)
  rwa [le_div_iff₀ (two_zpow_pos _)]

/-- No magnitude is nearer to a positive rational than the one of its rank. -/
theorem magnitude_nearestRank_le {q : Rat} (pos : 0 < q) (rank : Nat) :
    |magnitude (nearestRank q) - q| ≤ |magnitude rank - q| := by
  obtain ⟨e, -, low, high, rounded⟩ := nearestRank_spec pos
  rw [rounded, magnitude_nearestRank pos low high]
  have unitPos := two_zpow_pos ((e : Int) - 1074)
  have cases := magnitude_cases e rank
  generalize (2 : Rat) ^ ((e : Int) - 1074) = unit at *
  -- Among the multiples of the unit the one that is rounded to is nearest.
  have nearest (k : Nat) :
      |(nearestEven (q / unit) : Rat) * unit - q| ≤ |(k : Rat) * unit - q| := by
    have scaled (n : Nat) : |(n : Rat) * unit - q| = |(n : Rat) - q / unit| * unit := by
      rw [← abs_of_pos unitPos, ← abs_mul, abs_of_pos unitPos, sub_mul, div_mul_cancel₀ _ unitPos.ne']
    rw [scaled, scaled]
    refine mul_le_mul_of_nonneg_right ?_ unitPos.le
    exact_mod_cast nearestEven_le (div_nonneg pos.le unitPos.le) k
  rcases cases with ⟨k, multiple⟩ | ⟨notLowest, less⟩
  · rw [multiple]
    exact nearest k
  · have least : (binadeSize : Rat) * unit ≤ q := low.resolve_left notLowest.ne'
    calc |(nearestEven (q / unit) : Rat) * unit - q|
        ≤ |(binadeSize : Rat) * unit - q| := nearest binadeSize
      _ = q - binadeSize * unit := by rw [abs_sub_comm, abs_of_nonneg (sub_nonneg.2 least)]
      _ ≤ q - magnitude rank := by linarith
      _ ≤ |magnitude rank - q| := by rw [abs_sub_comm]; exact le_abs_self _

theorem magnitude_nonneg (rank : Nat) : 0 ≤ magnitude rank := by
  unfold magnitude
  split
  · positivity
  · positivity

theorem magnitude_zero : magnitude 0 = 0 := by
  rw [magnitude_of_lt (by decide)]
  simp

/-- A positive rational below the overflow is rounded to a nearest number. -/
theorem nearest_ofMagnitude {q : Rat} (pos : 0 < q) (inRange : nearestRank q < rankCount) :
    (ofMagnitude false q).Nearest q := by
  refine ⟨magnitude (nearestRank q), ?_, ?_⟩
  · unfold ofMagnitude
    simp only
    rw [dif_pos inRange]
    rfl
  · intro y w value
    cases y with
    | nan => cases value
    | infinity negative => cases value
    | finite negative rank =>
      obtain rfl := Option.some.inj value
      cases negative with
      | false => exact magnitude_nearestRank_le pos rank
      | true =>
        -- A negative number is farther away than zero.
        refine (magnitude_nearestRank_le pos 0).trans ?_
        have nonneg := magnitude_nonneg rank
        rw [magnitude_zero, zero_sub, abs_neg, abs_of_pos pos, abs_sub_comm]
        refine le_trans ?_ (le_abs_self _)
        simp only [if_true]
        linarith

/-- What is not in the highest binades is not rounded beyond the greatest number. -/
theorem nearestRank_lt {q : Rat} (pos : 0 < q) (small : q < 2 ^ (1023 : Int)) :
    nearestRank q < rankCount := by
  obtain ⟨e, place, low, high, rounded⟩ := nearestRank_spec pos
  have binade_lt : binade q < 1023 :=
    (zpow_lt_zpow_iff_right₀ one_lt_two).1 ((binade_spec pos).1.trans_lt small)
  have steps := steps_le pos high
  have place_le : e ≤ 2044 := by omega
  have := Nat.mul_le_mul_right binadeSize place_le
  rw [rounded]
  unfold rankCount binadeSize at *
  omega

/-- An unsigned integer of 64 bits is read as a nearest number. -/
theorem nearest_ofInt {n : Int} (pos : 0 < n) (small : n < 2 ^ 64) : (ofInt n).Nearest n := by
  have positive : (0 : Rat) < n := by exact_mod_cast pos
  have inRange : (n : Rat) < 2 ^ (1023 : Int) := by
    have cast : (n : Rat) < ((2 ^ 64 : Int) : Rat) := by exact_mod_cast small
    have power : ((2 ^ 64 : Int) : Rat) = 2 ^ (64 : Int) := by norm_num
    rw [power] at cast
    exact cast.trans_le (two_zpow_mono (by decide))
  unfold ofInt ofRat
  rw [if_neg positive.not_gt]
  exact nearest_ofMagnitude positive (nearestRank_lt positive inRange)

end HomeVoice.Binary64
