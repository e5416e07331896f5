import HomeVoice.Entity.Features
import Mathlib.Data.Nat.Bitwise

/-!
# Sets of features

A set of features is the set of its bits. Whatever a set contains or has in common with another,
each larger set does as well.
-/

namespace HomeVoice

namespace Features

/-- The bit of a place is in a set. -/
def Has (f : Features) (place : Nat) : Prop :=
  f.bits.toNat.testBit place = true

/-- Every bit of one set is in the other. -/
instance : HasSubset Features := ⟨fun f g => ∀ place, f.Has place → g.Has place⟩

/-- The features that two sets have in common. -/
def inter (f g : Features) : Features :=
  ⟨f.bits &&& g.bits⟩

variable {f f' g : Features} {place : Nat}

theorem not_has_none (place : Nat) : ¬none.Has place := by
  simp [Has, none]

theorem has_inter : (f.inter g).Has place ↔ f.Has place ∧ g.Has place := by
  unfold Has inter
  rw [UInt64.toNat_and, Nat.testBit_and, Bool.and_eq_true]

/-- Sets with the same bits are the same. -/
theorem ext_has (same : ∀ place, f.Has place ↔ g.Has place) : f = g := by
  have bits : f.bits = g.bits := by
    apply UInt64.toNat_inj.1
    apply Nat.eq_of_testBit_eq
    intro place
    exact Bool.eq_iff_iff.2 (same place)
  cases f
  cases g
  exact congrArg mk bits

/-- A set contains another exactly when it has all of its bits. -/
theorem contains_iff_subset : f.contains g = true ↔ g ⊆ f := by
  have whole : f.contains g = true ↔ f.inter g = g := by
    cases g
    simp [contains, inter]
  rw [whole]
  constructor
  · intro kept place has
    rw [← kept, has_inter] at has
    exact has.1
  · intro included
    apply ext_has
    intro place
    rw [has_inter]
    exact and_iff_right_of_imp (included place)

/-- Two sets have something in common exactly when some bit is in both. -/
theorem intersects_iff_exists_has :
    f.intersects g = true ↔ ∃ place, f.Has place ∧ g.Has place := by
  have nothing : f.intersects g = true ↔ f.inter g ≠ none := by
    simp [intersects, inter, none]
  rw [nothing, ← not_iff_not, not_not]
  simp only [← has_inter, not_exists]
  constructor
  · intro disjoint place
    rw [disjoint]
    exact not_has_none place
  · intro disjoint
    apply ext_has
    intro place
    exact iff_of_false (disjoint place) (not_has_none place)

theorem contains_mono (included : f ⊆ f') (contained : f.contains g = true) :
    f'.contains g = true := by
  rw [contains_iff_subset] at contained ⊢
  exact fun place has => included place (contained place has)

theorem intersects_mono (included : f ⊆ f') (common : f.intersects g = true) :
    f'.intersects g = true := by
  rw [intersects_iff_exists_has] at common ⊢
  exact common.imp fun place => And.imp_left (included place)

end Features

end HomeVoice
