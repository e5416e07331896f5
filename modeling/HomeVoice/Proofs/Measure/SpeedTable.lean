import HomeVoice.Measure.SpeedTable
import HomeVoice.Proofs.Measure.Percent
import Mathlib.Order.GaloisConnection.Basic

/-!
# The speeds that percentages select

Every percentage selects a speed that the fan knows, and a speed that the fan knows stands for a
percentage. The two directions round to opposite sides: a place of the table stands for a
percentage that is rounded down, and a percentage selects a place that is rounded up. They form a
Galois connection, `SpeedTable.Proper.gc_step`, and what holds of the two together is proved from
it.
-/

namespace HomeVoice.SpeedTable

/-- A speed that a fan with the table can have. -/
def Knows (t : SpeedTable) (speed : String) : Prop :=
  speed = off ∨ speed ∈ t.speeds

variable {t : SpeedTable}

theorem knows_speedFor (t : SpeedTable) (percentage : Int64) : t.Knows (t.speedFor percentage) := by
  have selected (place : Nat) : t.Knows ((t.speeds[place]?).getD off) := by
    cases found : t.speeds[place]? with
    | none => exact .inl rfl
    | some speed => exact .inr (List.mem_of_getElem? found)
  unfold speedFor
  split
  · exact .inl rfl
  · exact selected _

theorem exists_percentageOf? {speed : String} (known : t.Knows speed) :
    ∃ percentage, t.percentageOf? speed = some percentage := by
  unfold percentageOf?
  rcases known with rfl | member
  · exact ⟨0, rfl⟩
  · obtain ⟨i, hi⟩ := Option.isSome_iff_exists.1 (List.isSome_idxOf?.2 member)
    rw [hi]
    split
    · exact ⟨0, rfl⟩
    · exact ⟨_, rfl⟩

/-! ## Tables of speeds -/

/-- A table that has speeds, none of which is standing still. -/
structure Proper (t : SpeedTable) : Prop where
  inhabited : 0 < t.speeds.length
  moving : off ∉ t.speeds

theorem ofSpeeds_of_filter_eq_nil {speeds : List String} (none : speeds.filter (· ≠ off) = []) :
    ofSpeeds speeds = standard := by
  unfold ofSpeeds
  rw [none]

theorem speeds_ofSpeeds_of_filter_ne_nil {speeds : List String}
    (some : speeds.filter (· ≠ off) ≠ []) :
    (ofSpeeds speeds).speeds = speeds.filter (· ≠ off) := by
  unfold ofSpeeds
  split
  · next none => exact absurd none some
  · rfl

theorem proper_ofSpeeds (speeds : List String) : (ofSpeeds speeds).Proper := by
  by_cases none : speeds.filter (· ≠ off) = []
  · rw [ofSpeeds_of_filter_eq_nil none]
    exact ⟨by decide, by decide⟩
  · have kept := speeds_ofSpeeds_of_filter_ne_nil none
    constructor
    · rw [kept]
      exact List.length_pos_iff.2 none
    · rw [kept]
      simp

/-! ## Places and percentages -/

/-- The percentage that a place of the table stands for. -/
def level (t : SpeedTable) (place : Nat) : Nat :=
  100 * place / t.speeds.length

/-- The place that a percentage selects is the first one that reaches it. -/
def Selects (t : SpeedTable) (p : Int64) (place : Nat) : Prop :=
  IsLeast {i : Nat | 1 ≤ i ∧ min p.toInt 100 ≤ t.level i} place

/-- The last place is the one that a hundred percent selects. -/
theorem step_hundred (t : SpeedTable) : t.step 100 = t.speeds.length := by
  unfold step
  omega

theorem selects_mono {p p' : Int64} (h : p ≤ p') {place place' : Nat}
    (selected : t.Selects p place) (selected' : t.Selects p' place') : place ≤ place' := by
  have le : p.toInt ≤ p'.toInt := Int64.le_iff_toInt_le.1 h
  obtain ⟨first, reaches⟩ := selected'.1
  exact selected.2 ⟨first, by omega⟩

/-- Percentages are brought between 0 and 100 before a speed is selected. -/
theorem speedFor_clamp (t : SpeedTable) (p : Int64) :
    t.speedFor (Percent.clamp p.toInt) = t.speedFor p := by
  unfold speedFor
  rw [Percent.clamp_toInt (Percent.isPercentage_clamp _)]

theorem speedFor_of_nonpos {p : Int64} (h : p ≤ 0) : t.speedFor p = off := by
  have nonpos : p.toInt ≤ 0 := Int64.le_iff_toInt_le.1 h
  have zero : (Percent.clamp p.toInt).toInt.toNat = 0 := by
    rw [Percent.toInt_clamp]
    omega
  unfold speedFor
  rw [zero]
  rfl

theorem speedFor_of_pos {p : Int64} (h : 1 ≤ p) :
    t.speedFor p = (t.speeds[t.step (min p.toInt 100).toNat - 1]?).getD off := by
  have pos : 1 ≤ p.toInt := Int64.le_iff_toInt_le.1 h
  have same : (Percent.clamp p.toInt).toInt.toNat = (min p.toInt 100).toNat := by
    rw [Percent.toInt_clamp]
    omega
  unfold speedFor
  rw [same]
  split
  · omega
  · rfl

namespace Proper

variable (proper : t.Proper)

include proper

/-- A place reaches a percentage exactly when it is not before the one that the percentage
selects. -/
theorem gc_step : GaloisConnection t.step t.level := by
  intro percent place
  unfold step level
  rw [Nat.le_div_iff_mul_le proper.inhabited]
  omega

theorem step_pos {percent : Nat} (pos : 0 < percent) : 0 < t.step percent := by
  have := Nat.mul_pos pos proper.inhabited
  unfold step
  omega

theorem level_length : t.level t.speeds.length = 100 :=
  Nat.mul_div_cancel _ proper.inhabited

theorem level_le {place : Nat} (inside : place ≤ t.speeds.length) : t.level place ≤ 100 :=
  (proper.gc_step.monotone_u inside).trans_eq proper.level_length

theorem step_le_length {percent : Nat} (h : percent ≤ 100) : t.step percent ≤ t.speeds.length :=
  (proper.gc_step _ _).2 (by rwa [proper.level_length])

/-- With no more speeds than there are percentages, places stand for different percentages. -/
theorem strictMono_level (few : t.speeds.length ≤ 100) : StrictMono t.level := by
  refine strictMono_nat_of_lt_succ fun place => ?_
  have inhabited := proper.inhabited
  unfold level
  calc 100 * place / t.speeds.length
      < (100 * place + t.speeds.length) / t.speeds.length := by
        rw [Nat.add_div_right _ inhabited]
        exact Nat.lt_succ_self _
    _ ≤ 100 * (place + 1) / t.speeds.length := Nat.div_le_div_right (by omega)

theorem step_level (few : t.speeds.length ≤ 100) (place : Nat) : t.step (t.level place) = place :=
  (proper.strictMono_level few).injective (proper.gc_step.u_l_u_eq_u place)

/-! ## Speeds of places -/

theorem selects_step {p : Int64} (h : 1 ≤ p) :
    t.Selects p (t.step (min p.toInt 100).toNat) := by
  have pos : 1 ≤ p.toInt := Int64.le_iff_toInt_le.1 h
  have reached := proper.gc_step.le_u_l (min p.toInt 100).toNat
  refine ⟨⟨proper.step_pos (by omega), by omega⟩, ?_⟩
  rintro place ⟨-, reaches⟩
  exact (proper.gc_step _ _).2 (by omega)

/-- The place that a percentage selects is in the table, and has the speed that is selected. -/
theorem getElem?_of_selects {p : Int64} (h : 1 ≤ p) {place : Nat} (selected : t.Selects p place) :
    place ≤ t.speeds.length ∧ t.speeds[place - 1]? = some (t.speedFor p) := by
  have pos : 1 ≤ p.toInt := Int64.le_iff_toInt_le.1 h
  obtain rfl := selected.unique (proper.selects_step h)
  have first : 0 < t.step (min p.toInt 100).toNat := proper.step_pos (by omega)
  have last : t.step (min p.toInt 100).toNat ≤ t.speeds.length := proper.step_le_length (by omega)
  refine ⟨last, ?_⟩
  rw [speedFor_of_pos h, List.getElem?_eq_getElem (by omega)]
  rfl

theorem speedFor_eq_off_iff {p : Int64} : t.speedFor p = off ↔ p ≤ 0 := by
  refine ⟨fun still => ?_, speedFor_of_nonpos⟩
  by_contra moves
  have pos : 1 ≤ p := by grind
  have found := (proper.getElem?_of_selects pos (proper.selects_step pos)).2
  rw [still] at found
  exact proper.moving (List.mem_of_getElem? found)

theorem getLast?_eq_speedFor {p : Int64} (full : 100 ≤ p) :
    t.speeds.getLast? = some (t.speedFor p) := by
  have pos : 1 ≤ p := by grind
  have hundred : (min p.toInt 100).toNat = 100 := by
    have : 100 ≤ p.toInt := Int64.le_iff_toInt_le.1 full
    omega
  have found := (proper.getElem?_of_selects pos (proper.selects_step pos)).2
  rw [hundred, t.step_hundred] at found
  rw [List.getLast?_eq_getElem?, found]

/-- A speed other than standing still stands for what its first place stands for. -/
theorem exists_level {speed : String} (moves : speed ≠ off) {q : Int64}
    (known : t.percentageOf? speed = some q) :
    ∃ place, 1 ≤ place ∧ place ≤ t.speeds.length ∧ q.toInt = t.level place ∧
      t.speeds[place - 1]? = some speed := by
  rw [percentageOf?, if_neg moves] at known
  obtain ⟨i, found, rfl⟩ := Option.map_eq_some_iff.1 known
  obtain ⟨inside, same, -⟩ := List.idxOf?_eq_some_iff.1 found
  have highest : t.level (i + 1) ≤ 100 := proper.level_le inside
  refine ⟨i + 1, Nat.succ_pos i, inside, ?_, ?_⟩
  · rw [Nat.mul_comm]
    exact Int64.toInt_ofIntClamp (le_trans (by decide) (Int.natCast_nonneg _))
      (le_trans (Int.ofNat_le.2 highest) (by decide))
  · rw [Nat.add_sub_cancel, List.getElem?_eq_getElem inside, same]

/-- What a speed stands for is a percentage. -/
theorem isPercentage_of_percentageOf? {speed : String} {q : Int64}
    (known : t.percentageOf? speed = some q) : Percent.IsPercentage q := by
  by_cases still : speed = off
  · subst still
    cases known
    exact ⟨by decide, by decide⟩
  · obtain ⟨place, -, inside, stands, -⟩ := proper.exists_level still known
    have highest := proper.level_le inside
    rw [Percent.isPercentage_iff, stands]
    omega

/-- With no more speeds than there are percentages, what a speed stands for selects the speed. -/
theorem speedFor_percentageOf? (few : t.speeds.length ≤ 100) {speed : String} {q : Int64}
    (known : t.percentageOf? speed = some q) : t.speedFor q = speed := by
  by_cases still : speed = off
  · subst still
    cases known
    exact speedFor_of_nonpos (by decide)
  · obtain ⟨place, first, inside, stands, there⟩ := proper.exists_level still known
    have above : t.level 0 < t.level place := proper.strictMono_level few first
    have highest := proper.level_le inside
    have pos : 1 ≤ q := by
      rw [Int64.le_iff_toInt_le, stands]
      show (1 : Int) ≤ _
      omega
    have selected := proper.selects_step pos
    have percentage : (min q.toInt 100).toNat = t.level place := by omega
    rw [percentage, proper.step_level few] at selected
    have found := (proper.getElem?_of_selects pos selected).2
    exact Option.some.inj (found.symm.trans there)

end Proper

end HomeVoice.SpeedTable
