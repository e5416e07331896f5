import HomeVoice.Proofs.Json.Object
import HomeVoice.Proofs.Json.Record

/-!
# What a structure does not read

A structure reads nothing of an object but what stands under the keys of its fields, and of that only
what the readers of the fields see. So a field of another key may be added to an object, and a value
inside may be replaced by one that is read in the same way, and nothing changes: neither what is
read nor, where the structure is refused, the reason.
-/

namespace HomeVoice

namespace Dict

variable {α : Type}

/-- The dictionary with the value of a key replaced by its image. -/
def alter (k : String) (f : α → α) (d : Dict α) : Dict α :=
  d.map fun entry => if entry.1 = k then (entry.1, f entry.2) else entry

theorem get?_alter_self (k : String) (f : α → α) (d : Dict α) :
    (d.alter k f).get? k = (d.get? k).map f := by
  induction d with
  | nil => rfl
  | cons entry rest ih =>
    obtain ⟨key, value⟩ := entry
    by_cases found : key = k
    · simp [alter, get?, found]
    · simpa [alter, get?, found] using ih

theorem get?_alter_of_ne {j k : String} (different : j ≠ k) (f : α → α) (d : Dict α) :
    (d.alter k f).get? j = d.get? j := by
  induction d with
  | nil => rfl
  | cons entry rest ih =>
    obtain ⟨key, value⟩ := entry
    by_cases found : key = k
    · subst found
      simpa [alter, get?, Ne.symm different] using ih
    · by_cases sought : key = j
      · subst sought
        simp [alter, get?, found]
      · simpa [alter, get?, found, sought] using ih

end Dict

namespace RecordSource

/-- The source with a field added; an array has no fields to add to. -/
def add (source : RecordSource) (key : String) (value : Json) : RecordSource :=
  match source with
  | .fields entries => .fields (entries.insert key value)
  | .items values => .items values

/-- The source with what stands in the place of a field replaced by its image. -/
def alter (source : RecordSource) (key : String) (position : Nat) (f : Json → Json) :
    RecordSource :=
  match source with
  | .fields entries => .fields (Dict.alter key f entries)
  | .items values => .items (values.modify position f)

end RecordSource

namespace Json

/-- The object with a field added. -/
def add (j : Json) (key : String) (value : Json) : Json :=
  match j with
  | .obj fields => .obj (Dict.insert key value fields)
  | j => j

/-- The structure with what stands in the place of a field replaced by its image. -/
def alter (j : Json) (key : String) (position : Nat) (f : Json → Json) : Json :=
  match j with
  | .obj fields => .obj (Dict.alter key f fields)
  | .arr items => .arr (items.modify position f)
  | j => j

/-- What is given stays what it is; only its fields change. -/
theorem given?_add (j : Json) (key : String) (value : Json) :
    (j.add key value).given? = j.given?.map fun j => j.add key value := by
  cases j <;> rfl

theorem given?_alter (j : Json) (key : String) (position : Nat) (f : Json → Json) :
    (j.alter key position f).given? = j.given?.map fun j => j.alter key position f := by
  cases j <;> rfl

end Json

namespace Record

variable {α β : Type} {r : Record α} {key key' name : String} {position place : Nat}
  {decode : Decoder α} {absent cut : Option α} {value : Json} {f : Json → Json}

/-- The structure, with its first field at a position, does not see a change of its source. -/
def Ignores (r : Record α) (position : Nat) (change : RecordSource → RecordSource) : Prop :=
  ∀ source, r.read (change source) position = r.read source position

namespace Ignores

variable {change : RecordSource → RecordSource}

theorem map (ignores : r.Ignores position change) (g : α → β) :
    (g <$> r).Ignores position change := by
  intro source
  exact congrArg (Except.map g) (ignores source)

theorem seq {rf : Record (α → β)} (first : rf.Ignores position change)
    (second : r.Ignores (position + rf.size) change) : (rf <*> r).Ignores position change := by
  intro source
  simp only [Seq.seq, Record.seq, first source, second source]

/-- A field does not see what is added under another key. -/
theorem field_add (different : key ≠ key') :
    (field key decode absent cut).Ignores position fun source => source.add key' value := by
  intro source
  cases source with
  | fields entries => simp only [field, RecordSource.add, Dict.get?_insert_of_ne different]
  | items values => rfl

/-- A field does not see what is done in the place of another field. -/
theorem field_alter_of_ne (different : key ≠ key') (apart : position ≠ place) :
    (field key decode absent cut).Ignores position fun source => source.alter key' place f := by
  intro source
  cases source with
  | fields entries => simp only [field, RecordSource.alter, Dict.get?_alter_of_ne different]
  | items values =>
    simp only [field, RecordSource.alter, List.getElem?_modify_ne _ _ (Ne.symm apart)]

/-- A field does not see a change that its reader does not see. -/
theorem field_alter (unseen : ∀ j, decode (f j) = decode j) :
    (field key decode absent cut).Ignores position fun source => source.alter key position f := by
  intro source
  cases source with
  | fields entries =>
    simp only [field, RecordSource.alter, Dict.get?_alter_self]
    cases Dict.get? entries key with
    | none => rfl
    | some j => simp only [Option.map_some, unseen j]
  | items values =>
    simp only [field, RecordSource.alter, List.getElem?_modify_eq]
    cases values[position]? with
    | none => rfl
    | some j => exact congrArg (Except.mapError RecordFault.inItem) (unseen j)

/-- Fields that are added and not read change nothing. -/
theorem decode_add (ignores : r.Ignores 0 fun source => source.add key value) (j : Json) :
    r.decode name (j.add key value) = r.decode name j := by
  cases j with
  | obj fields => exact congrArg (Except.mapError _) (ignores (.fields fields))
  | _ => rfl

/-- Changes of a part that are not seen change nothing. -/
theorem decode_alter (ignores : r.Ignores 0 fun source => source.alter key place f) (j : Json) :
    r.decode name (j.alter key place f) = r.decode name j := by
  cases j with
  | obj fields => exact congrArg (Except.mapError _) (ignores (.fields fields))
  | arr items =>
    have same : r.read (.items (items.modify place f)) 0 = r.read (.items items) 0 :=
      ignores (.items items)
    simp only [Json.alter, Record.decode, decodeIn, same, List.length_modify]
  | _ => rfl

end Ignores

end Record

end HomeVoice
