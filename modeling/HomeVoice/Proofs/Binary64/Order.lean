import HomeVoice.Binary64.Basic

/-!
# The order of numbers

Numbers are compared by their places. NaN has none, so that a number which is known to lie between
two others is not NaN, and it is finite when the two are. Rounding keeps the sign.
-/

namespace HomeVoice.Binary64

variable {x y lo hi : Binary64}

theorem lt_iff : x < y ↔ ∃ a b, x.place? = some a ∧ y.place? = some b ∧ a < b := by
  show x.lt y = true ↔ _
  unfold lt
  cases x.place? <;> cases y.place? <;> simp

theorem le_iff : x ≤ y ↔ ∃ a b, x.place? = some a ∧ y.place? = some b ∧ a ≤ b := by
  show x.le y = true ↔ _
  unfold le
  cases x.place? <;> cases y.place? <;> simp

/-- The finite numbers are those strictly between the infinities. -/
theorem isFinite_iff :
    x.isFinite = true ↔ ∃ a, x.place? = some a ∧ -(rankCount : Int) < a ∧ a < rankCount := by
  cases x with
  | nan => simp [isFinite, place?]
  | infinity negative => cases negative <;> simp [isFinite, place?]
  | finite negative rank =>
    have bound := rank.isLt
    refine iff_of_true rfl ⟨_, rfl, ?_⟩
    cases negative <;> simp only [Bool.false_eq_true, if_true, if_false] <;> omega

/-- A number between two finite ones is finite. -/
theorem isFinite_of_between (hlo : lo.isFinite = true) (hhi : hi.isFinite = true) (below : lo ≤ x)
    (above : x ≤ hi) : x.isFinite = true := by
  obtain ⟨a, ha, beyond, -⟩ := isFinite_iff.1 hlo
  obtain ⟨b, hb, -, within⟩ := isFinite_iff.1 hhi
  obtain ⟨a', p, ha', hp, hap⟩ := le_iff.1 below
  obtain ⟨p', b', hp', hb', hpb⟩ := le_iff.1 above
  cases ha.symm.trans ha'
  cases hb.symm.trans hb'
  cases hp.symm.trans hp'
  exact isFinite_iff.2 ⟨p, hp, by omega, by omega⟩

/-- Of two numbers that have a place, one is at most the other. -/
theorem le_of_not_lt (hx : lo ≤ x) (hy : lo ≤ y) (h : ¬y < x) : x ≤ y := by
  obtain ⟨_, a, _, ha, _⟩ := le_iff.1 hx
  obtain ⟨_, b, _, hb, _⟩ := le_iff.1 hy
  have : ¬b < a := fun less => h (lt_iff.2 ⟨b, a, hb, ha, less⟩)
  exact le_iff.2 ⟨a, b, ha, hb, by omega⟩

theorem not_lt_of_le (h : x ≤ y) : ¬y < x := by
  intro less
  obtain ⟨a, b, ha, hb, hab⟩ := le_iff.1 h
  obtain ⟨b', a', hb', ha', hba⟩ := lt_iff.1 less
  cases ha.symm.trans ha'
  cases hb.symm.trans hb'
  omega

theorem not_lt_self (x : Binary64) : ¬x < x := by
  intro less
  obtain ⟨a, b, ha, hb, hab⟩ := lt_iff.1 less
  cases ha.symm.trans hb
  omega

/-! ## Clamping -/

/-- A number that lies between the bounds stays as it is. -/
theorem clamp_of_between (below : lo ≤ x) (above : x ≤ hi) : x.clamp lo hi = x := by
  unfold clamp
  rw [if_neg (not_lt_of_le below), if_neg (not_lt_of_le above)]

/-- A clamped number, even one that is NaN, is neither below nor above the bounds. -/
theorem clamp_within (bounds : lo ≤ hi) : ¬x.clamp lo hi < lo ∧ ¬hi < x.clamp lo hi := by
  unfold clamp
  split
  · exact ⟨not_lt_self lo, not_lt_of_le bounds⟩
  · next notBelow =>
    split
    · exact ⟨not_lt_of_le bounds, not_lt_self hi⟩
    · next notAbove => exact ⟨notBelow, notAbove⟩

/-! ## Signs -/

/-- No number rounds across zero. -/
theorem ofMagnitude_true_nonpos (q : Rat) : ofMagnitude true q ≤ 0 := by
  have zero : (0 : Binary64).place? = some 0 := by rfl
  unfold ofMagnitude
  simp only
  split
  · exact le_iff.2 ⟨_, _, rfl, zero, by simp⟩
  · exact le_iff.2 ⟨_, _, rfl, zero, by simp⟩

/-- An integer that is not positive is read as a number that is not positive. -/
theorem ofInt_nonpos {n : Int} (h : n ≤ 0) : ofInt n ≤ 0 := by
  rcases Int.lt_or_eq_of_le h with negative | rfl
  · have : (n : Rat) < 0 := by exact_mod_cast negative
    unfold ofInt ofRat
    rw [if_pos this]
    exact ofMagnitude_true_nonpos _
  · exact le_iff.2 ⟨0, 0, rfl, rfl, Int.le_refl _⟩

theorem ofMagnitude_false_pos {q : Rat} (h : 0 < nearestRank q) : 0 < ofMagnitude false q := by
  have zero : (0 : Binary64).place? = some 0 := by rfl
  unfold ofMagnitude
  simp only
  split
  · exact lt_iff.2 ⟨_, _, zero, rfl, by simpa using h⟩
  · exact lt_iff.2 ⟨_, _, zero, rfl, by simp⟩

/-- An integer is in no binade of small fractions. -/
theorem le_binade_intCast (n : Int) : -1 ≤ binade n := by
  unfold binade
  have whole : Nat.log2 (n : Rat).den = 0 := by rw [Rat.den_intCast]; rfl
  simp only [whole]
  split <;> omega

/-- An integer above zero is not rounded to zero. -/
theorem nearestRank_intCast_pos {n : Int} (h : 0 < n) : 0 < nearestRank n := by
  have nonzero : (n : Rat) ≠ 0 := by exact_mod_cast Int.ne_of_gt h
  have binade := le_binade_intCast n
  unfold nearestRank
  rw [if_neg nonzero]
  refine Nat.add_pos_left (Nat.mul_pos ?_ (by decide)) _
  omega

/-- An integer is read as zero or less only if it is. -/
theorem ofInt_nonpos_iff {n : Int} : ofInt n ≤ 0 ↔ n ≤ 0 := by
  refine ⟨fun nonpos => Int.not_lt.1 fun positive => ?_, ofInt_nonpos⟩
  have rank := nearestRank_intCast_pos positive
  have notNegative : ¬(n : Rat) < 0 := by exact_mod_cast Int.not_lt.2 (Int.le_of_lt positive)
  unfold ofInt ofRat at nonpos
  rw [if_neg notNegative] at nonpos
  exact not_lt_of_le nonpos (ofMagnitude_false_pos rank)

end HomeVoice.Binary64
