import HomeVoice.Proofs.Fallible
import HomeVoice.Json.Decode

/-!
# What a structure was read from

A structure that has been read was read part by part: a part stands under its key in an object, or
at its position in an array. So from what has been read one can say what the value held.
-/

namespace HomeVoice

/-- What stands at the place of a field. -/
def RecordSource.part? (source : RecordSource) (key : String) (position : Nat) : Option Json :=
  match source with
  | .fields entries => entries.get? key
  | .items values => values[position]?

/-- What stands for a field whose place is empty: in an object, and in an array. -/
def RecordSource.filler {α : Type} (source : RecordSource) (absent cut : Option α) : Option α :=
  match source with
  | .fields _ => absent
  | .items _ => cut

@[simp] theorem RecordSource.filler_self {α : Type} (source : RecordSource) (x : Option α) :
    source.filler x x = x := by
  cases source <;> rfl

namespace Json

/-- What a value is as a structure. -/
def source? : Json → Option RecordSource
  | .obj fields => some (.fields fields)
  | .arr items => some (.items items)
  | _ => none

/-- What a structure holds in the place of a field. -/
def part? (j : Json) (key : String) (position : Nat) : Option Json :=
  j.source?.bind fun source => source.part? key position

theorem part?_of_source {j : Json} {source : RecordSource} (whole : j.source? = some source)
    (key : String) (position : Nat) : j.part? key position = source.part? key position := by
  rw [part?, whole, Option.bind_some]

/-- The value, unless it is `null`. -/
def given? : Json → Option Json
  | .null => none
  | j => some j

end Json

namespace Record

variable {α β : Type} {source : RecordSource} {position : Nat} {key name : String} {j : Json}
  {decode : Decoder α} {r : Record α} {a b : α}

theorem read_map_eq_ok {f : α → β} {c : β} :
    (f <$> r).read source position = .ok c ↔ ∃ a, r.read source position = .ok a ∧ f a = c :=
  map_eq_ok

theorem read_seq_eq_ok {f : Record (α → β)} {c : β} :
    (f <*> r).read source position = .ok c ↔
      ∃ g a, f.read source position = .ok g ∧ r.read source (position + f.size) = .ok a ∧
        g a = c := by
  simp only [Seq.seq, seq]
  cases f.read source position <;> cases r.read source (position + f.size) <;> simp

/-- A field is read from what stands in its place; where nothing does, something may stand for
it. -/
theorem read_field_eq_ok {absent cut : Option α} :
    (field key decode absent cut).read source position = .ok a ↔
      (∃ j, source.part? key position = some j ∧ decode j = .ok a) ∨
        source.part? key position = none ∧ source.filler absent cut = some a := by
  cases source with
  | fields entries =>
    simp only [field, RecordSource.part?, RecordSource.filler]
    cases entries.get? key with
    | none => cases absent <;> simp
    | some j => simp [mapError_eq_ok]
  | items values =>
    simp only [field, RecordSource.part?, RecordSource.filler]
    cases values[position]? with
    | none => cases cut <;> simp
    | some j => simp [mapError_eq_ok]

theorem read_required_eq_ok :
    (required key decode).read source position = .ok a ↔
      ∃ j, source.part? key position = some j ∧ decode j = .ok a := by
  rw [required, read_field_eq_ok, RecordSource.filler_self]
  simp

theorem read_defaulted_eq_ok :
    (defaulted key decode b).read source position = .ok a ↔
      (∃ j, source.part? key position = some j ∧ decode j = .ok a) ∨
        source.part? key position = none ∧ b = a := by
  rw [defaulted, read_field_eq_ok, RecordSource.filler_self, Option.some_inj]

/-- What is read of a value that may be `null` is read of what is given. -/
theorem optional_eq_ok {x : Option α} :
    decode.optional j = .ok x ↔
      (∃ a, j.given? = some j ∧ decode j = .ok a ∧ some a = x) ∨ j.given? = none ∧ none = x := by
  cases j <;> simp [Decoder.optional, Json.given?, map_eq_ok]

/-- A field that may be missing or `null` is read as what is given there. -/
theorem given_of_read_optional {x : Option α}
    (read : (defaulted key decode.optional none).read source position = .ok x) :
    (∃ j a, (source.part? key position).bind Json.given? = some j ∧ decode j = .ok a ∧
        x = some a) ∨
      (source.part? key position).bind Json.given? = none ∧ x = none := by
  rcases read_defaulted_eq_ok.1 read with ⟨j, found, decoded⟩ | ⟨absent, rfl⟩
  · rw [found, Option.bind_some]
    rcases optional_eq_ok.1 decoded with ⟨a, given, held, rfl⟩ | ⟨given, rfl⟩
    · exact .inl ⟨j, a, given, held, rfl⟩
    · exact .inr ⟨given, rfl⟩
  · exact .inr ⟨by rw [absent, Option.bind_none], rfl⟩

/-- A field that may be `null` and is not was read from what stands there. -/
theorem held_of_read_nullable (read : (nullable key decode).read source position = .ok (some a)) :
    ∃ j, source.part? key position = some j ∧ decode j = .ok a := by
  rcases read_field_eq_ok.1 read with ⟨j, found, decoded⟩ | ⟨-, filled⟩
  · rcases optional_eq_ok.1 decoded with ⟨_, -, held, ⟨⟩⟩ | ⟨-, ⟨⟩⟩
    exact ⟨j, found, held⟩
  · cases source <;> cases filled

/-- A structure that has been read was read from an object or an array, in any format. -/
theorem source_of_decodeIn {format : DataFormat} (decoded : r.decodeIn format name j = .ok a) :
    ∃ source, j.source? = some source ∧ r.read source 0 = .ok a := by
  unfold decodeIn at decoded
  cases j with
  | obj fields => exact ⟨.fields fields, rfl, mapError_eq_ok.1 decoded⟩
  | arr items =>
    refine ⟨.items items, rfl, ?_⟩
    cases read : r.read (.items items) 0 with
    | error fault =>
      simp only [read] at decoded
      cases decoded
    | ok a' =>
      simp only [read] at decoded
      split at decoded
      · cases decoded
      · exact congrArg Except.ok (Except.ok.inj decoded)
  | _ => cases decoded

theorem source_of_decode (decoded : r.decode name j = .ok a) :
    ∃ source, j.source? = some source ∧ r.read source 0 = .ok a :=
  source_of_decodeIn decoded

end Record

end HomeVoice
