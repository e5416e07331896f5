import HomeVoice.Text.LetterCase

/-!
# Characters that letter case leaves alone

Hyphens and underscores are neither capital nor small letters, so that a text has as many of them in
lower case as it had before.
-/

namespace HomeVoice.Text

/-- A character that is no capital letter and no small letter of one. -/
structure Caseless (d : Char) : Prop where
  positive : 0 < d.toNat
  special : d ∉ ['Σ', 'İ', 'ς', 'σ', 'i', Char.ofNat 0x307]
  notCapital : ∀ r ∈ capitals, ¬(r.first ≤ d.toNat ∧ d.toNat ≤ r.last)
  notSmall : ∀ r ∈ capitals, ¬(r.first + r.shift ≤ d.toNat ∧ d.toNat ≤ r.last + r.shift)

theorem caseless_hyphen : Caseless '-' :=
  ⟨by decide, by decide, by decide +kernel, by decide +kernel⟩

theorem caseless_underscore : Caseless '_' :=
  ⟨by decide, by decide, by decide +kernel, by decide +kernel⟩

/-- A number that is no character stands for the character zero. -/
theorem toNat_ofNat_or (n : Nat) : (Char.ofNat n).toNat = n ∨ (Char.ofNat n).toNat = 0 := by
  by_cases valid : n.isValidChar
  · left
    rw [Char.ofNat, dif_pos valid]
    rfl
  · right
    rw [Char.ofNat, dif_neg valid]
    rfl

variable {d : Char}

theorem smallLetter_eq_iff (caseless : Caseless d) {c : Char} : smallLetter c = d ↔ c = d := by
  unfold smallLetter
  split
  · next r found =>
    have member := List.mem_of_find?_eq_some found
    have bounds := List.find?_some found
    simp only [Bool.and_eq_true, decide_eq_true_eq] at bounds
    obtain ⟨⟨first, last⟩, -⟩ := bounds
    refine iff_of_false ?_ ?_
    · intro moved
      have place : d.toNat = (c.toNat + r.shift).toNat := by
        rw [← moved]
        refine (toNat_ofNat_or _).resolve_right ?_
        rw [moved]
        exact Nat.ne_of_gt caseless.positive
      have positive := caseless.positive
      exact caseless.notSmall r member (by omega)
    · rintro rfl
      exact caseless.notCapital r member ⟨first, last⟩
  · rfl

/-- A text in lower case has a character without case exactly when it had it before. -/
theorem mem_lowerAfter_iff (caseless : Caseless d) (before cs : List Char) :
    d ∈ lowerAfter before cs ↔ d ∈ cs := by
  have special := caseless.special
  induction cs generalizing before with
  | nil => rfl
  | cons c rest ih =>
    rw [lowerAfter, List.mem_append, List.mem_cons]
    refine or_congr ?_ (ih (c :: before))
    simp only [List.mem_cons, List.not_mem_nil, or_false, not_or] at special
    split
    · next sigma =>
      subst sigma
      split <;> simp [special]
    · split
      · next dotted =>
        subst dotted
        simp [special]
      · rw [List.mem_singleton, eq_comm, smallLetter_eq_iff caseless, eq_comm]

theorem mem_lowercase_iff (caseless : Caseless d) (s : String) :
    d ∈ (lowercase s).toList ↔ d ∈ s.toList := by
  rw [lowercase, String.toList_ofList, mem_lowerAfter_iff caseless]

end HomeVoice.Text
