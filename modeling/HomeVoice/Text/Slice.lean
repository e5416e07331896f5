/-!
# Parts of a text

Places in a text are counted in bytes. `Text.slice?` takes the part between two places, which must
not be inside a character. A part of a text that was put together from three is found where it was
put, as `slice?_middle` says.
-/

namespace HomeVoice.Text

/-- A place of a text where no character is cut: one between characters or at an end. -/
abbrev IsBoundary (s : String) (place : Nat) : Prop :=
  String.Pos.Raw.IsValid s ⟨place⟩

/-- The part of a text between two places; none unless they are boundaries in this order. -/
def slice? (s : String) (start stop : Nat) : Option String :=
  if h : IsBoundary s start ∧ IsBoundary s stop ∧ start ≤ stop then
    some (s.slice ⟨⟨start⟩, h.1⟩ ⟨⟨stop⟩, h.2.1⟩ h.2.2).copy
  else none

theorem isBoundary_append (a b : String) : IsBoundary (a ++ b) a.utf8ByteSize :=
  String.Pos.Raw.isValid_iff_exists_append.2 ⟨a, b, rfl, rfl⟩

theorem slice?_middle (a b c : String) :
    slice? (a ++ b ++ c) a.utf8ByteSize (a ++ b).utf8ByteSize = some b := by
  have start : IsBoundary (a ++ b ++ c) a.utf8ByteSize := by
    rw [String.append_assoc]
    exact isBoundary_append a (b ++ c)
  have stop : IsBoundary (a ++ b ++ c) (a ++ b).utf8ByteSize := isBoundary_append (a ++ b) c
  have ordered : a.utf8ByteSize ≤ (a ++ b).utf8ByteSize := by
    rw [String.utf8ByteSize_append]
    exact Nat.le_add_right _ _
  rw [slice?, dif_pos ⟨start, stop, ordered⟩, Option.some_inj, ← String.toByteArray_inj,
    String.toByteArray_copy_slice, String.toByteArray_append]
  show ByteArray.extract _ a.utf8ByteSize (a ++ b).utf8ByteSize = _
  rw [← String.size_toByteArray, ← String.size_toByteArray, ByteArray.extract_append_size_left,
    String.toByteArray_append]
  exact ByteArray.extract_append_eq_right rfl ByteArray.size_append

end HomeVoice.Text
