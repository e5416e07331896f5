import HomeVoice.Hub.Declaration
import HomeVoice.Proofs.Binary64.Nearest
import HomeVoice.Proofs.Json.Record
import HomeVoice.Proofs.Json.WellFormed
import HomeVoice.Proofs.Protocol.Envelope

/-!
# Attributes and JSON

A value of JSON becomes the value of an attribute in two ways: by its kind, as for the entities that
are declared, and by the first type that fits, as for an entity that is read. The two give the same,
and so the attributes of an entity do not depend on the way by which it came.
-/

namespace HomeVoice

theorem Json.toInt_ofInt_of_fits {n : Int} (fits : fitsInt64 n = true) : (Int64.ofInt n).toInt = n := by
  simp only [fitsInt64, Bool.and_eq_true, decide_eq_true_eq, Int64.toInt_minValue,
    Int64.toInt_maxValue] at fits
  exact Int64.toInt_ofInt_of_le (by omega) (by omega)

theorem Binary64.Nearest.isFinite {x : Binary64} {q : Rat} (nearest : x.Nearest q) :
    x.isFinite = true := by
  obtain ⟨v, value, -⟩ := nearest
  cases x with
  | finite => rfl
  | _ => cases value

/-! ## Values -/

namespace AttributeValue

/-- The first type that fits a value is the one of its kind. -/
theorem decode_eq_ofJson (j : Json) : decode j = .ok (ofJson j) := by
  cases j with
  | int n =>
    -- The types are tried in turn; an integer beyond 64 bits is the only one left to the next.
    by_cases fits : Json.fitsInt64 n = true
    · simp [decode, readers, ofJson, Decoder.bool, Decoder.int64, Decoder.view, Json.bool?,
        Json.int64?, fits, Except.map, Except.toOption]
    · simp [decode, readers, ofJson, Decoder.bool, Decoder.int64, Decoder.number, Decoder.view,
        Json.bool?, Json.int64?, Json.number?, fits, Except.map, Except.toOption]
  | _ => rfl

/-- An integer beyond the signed 64-bit range becomes a nearest number, and is written as that. -/
theorem ofJson_int_of_beyond {n : Int} (inRange : Json.inIntegerRange n = true)
    (beyond : Int64.maxValue.toInt < n) :
    ∃ x : Binary64, ofJson (.int n) = .number x ∧ (ofJson (.int n)).toJson = .float x ∧
      x.Nearest n := by
  have nearest : (Binary64.ofInt n).Nearest n := by
    simp only [Json.inIntegerRange, Bool.and_eq_true, decide_eq_true_eq, UInt64.size] at inRange
    rw [Int64.toInt_maxValue] at beyond
    exact Binary64.nearest_ofInt (by omega) (by omega)
  have unfit : ¬Json.fitsInt64 n = true := by
    simp only [Json.fitsInt64, Bool.and_eq_true, decide_eq_true_eq]
    omega
  refine ⟨.ofInt n, if_neg unfit, ?_, nearest⟩
  rw [ofJson, if_neg unfit, toJson, Json.ofNumber, if_pos nearest.isFinite]

/-- Any other value is written as it was. -/
theorem toJson_ofJson {v : Json} (wellFormed : v.WellFormed)
    (within : ∀ n, v = .int n → n ≤ Int64.maxValue.toInt) : (ofJson v).toJson = v := by
  cases wellFormed with
  | @int n inRange =>
    have fits : Json.fitsInt64 n = true := by
      simp only [Json.inIntegerRange, Json.fitsInt64, Bool.and_eq_true, decide_eq_true_eq] at *
      exact ⟨inRange.1, within n rfl⟩
    rw [ofJson, if_pos fits, toJson, Json.ofInt64, Json.toInt_ofInt_of_fits fits]
  | float finite => exact if_pos finite
  | _ => rfl

/-- What is written is read as the value that it was written from. -/
theorem ofJson_toJson_ofJson {v : Json} (wellFormed : v.WellFormed) :
    ofJson (ofJson v).toJson = ofJson v := by
  by_cases within : ∀ n, v = .int n → n ≤ Int64.maxValue.toInt
  · rw [toJson_ofJson wellFormed within]
  · obtain ⟨n, rfl, beyond⟩ : ∃ n, v = .int n ∧ Int64.maxValue.toInt < n := by
      simpa using within
    cases wellFormed with
    | int inRange =>
      obtain ⟨x, made, written, -⟩ := ofJson_int_of_beyond inRange beyond
      rw [written, made, ofJson]

end AttributeValue

/-! ## Bags of attributes -/

namespace Dict

theorem get?_mapValues {α β : Type} (f : α → β) (d : Dict α) (key : String) :
    (d.mapValues f).get? key = (d.get? key).map f := by
  induction d with
  | nil => rfl
  | cons entry rest ih =>
    obtain ⟨k, value⟩ := entry
    by_cases found : k = key
    · simp [mapValues, get?, found]
    · simpa [mapValues, get?, found] using ih

end Dict

namespace Attributes

theorem ofFields_eq (fields : Dict Json) :
    ofFields fields = ⟨Dict.ofEntries (fields.mapValues AttributeValue.ofJson)⟩ := by
  have collected (a : Attributes) :
      fields.foldl (fun a field => a.insert field.1 (.ofJson field.2)) a =
        ⟨(fields.mapValues AttributeValue.ofJson).foldl
          (fun d entry => d.insert entry.1 entry.2) a.entries⟩ := by
    induction fields generalizing a with
    | nil => rfl
    | cons field rest ih => exact ih _
  exact collected empty

/-- The fields of an object are read as the attributes that they give. -/
theorem decode_obj (fields : Dict Json) : decode (.obj fields) = .ok (ofFields fields) := by
  have read : Decoder.dict AttributeValue.decode (.obj fields) =
      .ok (fields.mapValues AttributeValue.ofJson) := by
    unfold Decoder.dict Dict.mapValues
    induction fields with
    | nil => rfl
    | cons field rest ih =>
      dsimp only at ih ⊢
      rw [List.mapM_cons, ih, AttributeValue.decode_eq_ofJson]
      rfl
  rw [decode, read, ofFields_eq]
  rfl

/-- The attribute of a name is the one that the field of this name gives. -/
theorem get?_ofFields {fields : Dict Json} (ascending : Dict.Ascending fields) (key : String) :
    (ofFields fields).get? key = (Dict.get? fields key).map .ofJson := by
  rw [ofFields_eq, get?, Dict.get?_ofEntries, Dict.mapValues, ← List.map_reverse]
  exact (Dict.get?_mapValues AttributeValue.ofJson fields.reverse key).trans
    (congrArg _ (Dict.get?_reverse ascending key))

end Attributes

/-! ## Entities -/

open Record (decode_obj read_defaulted read_defaulted_absent read_defaulted_eq_ok read_map
  read_map_eq_ok read_required read_required_eq_ok read_seq read_seq_eq_ok source_of_decode
  source_of_decodeIn)

/-- The fields that say what attributes an entity has; there are none where nothing is said. -/
def Json.attributeFields? (j : Json) : Option (Dict Json) :=
  match j.part? "attributes" 2 with
  | none => some []
  | some attributes => attributes.fields?

/-- Attributes that are read in place of their fields are read from these fields. -/
theorem Json.attributeFields_of_read {α : Type} {j : Json} {source : RecordSource}
    {decode : Decoder α} {f : Dict Json → α} {a : α} (whole : j.source? = some source)
    (reads : ∀ held, decode held = .ok a → ∃ fields, held = .obj fields ∧ f fields = a)
    (read : (Record.defaulted "attributes" decode (f [])).read source 2 = .ok a) :
    ∃ fields, j.attributeFields? = some fields ∧ f fields = a := by
  rw [attributeFields?, part?_of_source whole]
  rcases read_defaulted_eq_ok.1 read with ⟨held, found, decoded⟩ | ⟨absent, rfl⟩
  · obtain ⟨fields, rfl, given⟩ := reads held decoded
    rw [found]
    exact ⟨fields, rfl, given⟩
  · rw [absent]
    exact ⟨[], rfl, rfl⟩

/-- A declaration keeps the fields of the attributes as they are. -/
theorem EntityDeclaration.attributeFields_of_decode {format : DataFormat} {j : Json}
    {d : EntityDeclaration} (decoded : decode format j = .ok d) :
    j.attributeFields? = some d.attributes := by
  obtain ⟨source, whole, read⟩ := source_of_decodeIn decoded
  obtain ⟨_, attributes, readToState, readAttributes, rfl⟩ := read_seq_eq_ok.1 read
  obtain ⟨_, _, readToId, -, rfl⟩ := read_seq_eq_ok.1 readToState
  obtain ⟨_, -, rfl⟩ := read_map_eq_ok.1 readToId
  have reads (held : Json) (read : Decoder.json.dict held = .ok attributes) :
      ∃ fields, held = .obj fields ∧ fields = attributes := by
    cases held with
    | obj fields => exact ⟨fields, rfl, Except.ok.inj ((Decoder.dict_json fields).symm.trans read)⟩
    | _ => cases read
  obtain ⟨_, stated, rfl⟩ := Json.attributeFields_of_read (f := fun x => x) whole reads
    readAttributes
  exact stated

/-- An entity that is read has the attributes that the fields give. -/
theorem Entity.attributeFields_of_decode {now : Timestamp} {j : Json} {e : Entity}
    (decoded : decode now j = .ok e) :
    ∃ fields, j.attributeFields? = some fields ∧ .ofFields fields = e.attributes := by
  obtain ⟨source, whole, read⟩ := source_of_decode decoded
  obtain ⟨_, _, readToAttributes, -, rfl⟩ := read_seq_eq_ok.1 read
  obtain ⟨_, attributes, readToState, readAttributes, rfl⟩ := read_seq_eq_ok.1 readToAttributes
  obtain ⟨_, _, readToId, -, rfl⟩ := read_seq_eq_ok.1 readToState
  obtain ⟨_, -, rfl⟩ := read_map_eq_ok.1 readToId
  refine Json.attributeFields_of_read whole ?_ readAttributes
  intro held read
  cases held with
  | obj fields =>
    exact ⟨fields, rfl, Except.ok.inj ((Attributes.decode_obj fields).symm.trans read)⟩
  | _ => cases read

/-- A declared entity is the one that is read from its declaration. -/
theorem EntityDeclaration.toEntity_eq_ok_iff {d : EntityDeclaration} {now : Timestamp} {e : Entity} :
    d.toEntity now = .ok e ↔ Entity.decode now d.toJson = .ok e := by
  have written : d.toJson = .obj [("attributes", .obj d.attributes), ("entity_id", .str d.id),
      ("state", .str d.state)] :=
    rfl
  have id_decode : EntityId.decode (.str d.id) =
      (EntityId.parse d.id).mapError fun e => .refused e.message :=
    rfl
  rw [written]
  constructor
  · intro made
    obtain ⟨id, parsed, rfl⟩ := map_eq_ok.1 made
    have readId : EntityId.decode (.str d.id) = .ok id := by rw [id_decode, parsed, mapError_ok]
    exact decode_obj (read_seq (read_seq (read_seq
      (read_map (read_required rfl readId)) (read_required rfl (Decoder.string_str _)))
      (read_defaulted rfl (Attributes.decode_obj _))) (read_defaulted_absent rfl))
  · intro decoded
    obtain ⟨_, ⟨⟩, read⟩ := source_of_decode decoded
    -- The fields are taken off from the last one, the time of change, to the first.
    obtain ⟨_, stamp, readToAttributes, readStamp, rfl⟩ := read_seq_eq_ok.1 read
    obtain ⟨_, attributes, readToState, readAttributes, rfl⟩ := read_seq_eq_ok.1 readToAttributes
    obtain ⟨_, state, readToId, readState, rfl⟩ := read_seq_eq_ok.1 readToState
    obtain ⟨id, readId, rfl⟩ := read_map_eq_ok.1 readToId
    obtain ⟨_, ⟨⟩, parsed⟩ := read_required_eq_ok.1 readId
    obtain ⟨_, ⟨⟩, ⟨⟩⟩ := read_required_eq_ok.1 readState
    rw [id_decode, mapError_eq_ok] at parsed
    rcases read_defaulted_eq_ok.1 readAttributes with ⟨_, ⟨⟩, given⟩ | ⟨⟨⟩, -⟩
    obtain rfl := Except.ok.inj ((Attributes.decode_obj _).symm.trans given)
    rcases read_defaulted_eq_ok.1 readStamp with ⟨_, ⟨⟩, -⟩ | ⟨-, rfl⟩
    rw [toEntity, parsed]
    rfl

/-! ## Both ways -/

/-- The two ways from JSON to the value of an attribute give the same. What is written of it is the
value that was read, unless this is an integer beyond the signed 64-bit range, of which a nearest
number is left; and what is written is read as the same value again. So a declared entity and one
that is read have the same attributes when they are given the same fields, whatever else is said of
them and in whatever format, and under a name each reader of attributes finds what the field of this
name gives. -/
theorem attribute_conversions_agree {v : Json} (wellFormed : v.WellFormed) :
    AttributeValue.decode v = .ok (.ofJson v) ∧
    (∀ n, v = .int n → Int64.maxValue.toInt < n →
      ∃ x : Binary64, AttributeValue.ofJson v = .number x ∧
        (AttributeValue.ofJson v).toJson = .float x ∧ x.Nearest n) ∧
    ((∀ n, v = .int n → n ≤ Int64.maxValue.toInt) → (AttributeValue.ofJson v).toJson = v) ∧
    AttributeValue.ofJson (AttributeValue.ofJson v).toJson = .ofJson v ∧
    AttributeValue.decode (AttributeValue.ofJson v).toJson = .ok (.ofJson v) ∧
    (∀ fields, Attributes.decode (.obj fields) = .ok (.ofFields fields)) ∧
    (∀ fields, v = .obj fields → ∀ key,
      (Attributes.ofFields fields).get? key = (Dict.get? fields key).map .ofJson) ∧
    (∀ (d : EntityDeclaration) (now : Timestamp) (e : Entity),
      d.toEntity now = .ok e ↔ Entity.decode now d.toJson = .ok e) ∧
    ∀ {format : DataFormat} {j j' : Json} {d : EntityDeclaration} {now now' : Timestamp}
      {e e' : Entity}, EntityDeclaration.decode format j = .ok d → d.toEntity now = .ok e →
      Entity.decode now' j' = .ok e' → j.attributeFields? = j'.attributeFields? →
      e.attributes = e'.attributes := by
  have again := AttributeValue.ofJson_toJson_ofJson wellFormed
  refine ⟨AttributeValue.decode_eq_ofJson v, ?_, AttributeValue.toJson_ofJson wellFormed, again, ?_,
    Attributes.decode_obj, ?_, fun _ _ _ => EntityDeclaration.toEntity_eq_ok_iff, ?_⟩
  · rintro n rfl beyond
    cases wellFormed with
    | int inRange => exact AttributeValue.ofJson_int_of_beyond inRange beyond
  · rw [AttributeValue.decode_eq_ofJson, again]
  · rintro fields rfl key
    cases wellFormed with
    | obj ascending _ => exact Attributes.get?_ofFields ascending key
  · intro format j j' d now now' e e' declared made read same
    obtain ⟨fields, stated, given⟩ := Entity.attributeFields_of_decode read
    rw [EntityDeclaration.attributeFields_of_decode declared, stated] at same
    obtain ⟨_, -, rfl⟩ := map_eq_ok.1 made
    rw [← given, Option.some.inj same]

/-- A lamp is declared with the greatest unsigned integer of 64 bits for a serial number, and has a
nearest number in its place, also when it is read from its declaration. -/
theorem attribute_conversions_agree_for_serial_number :
    let serial : Json := .int 18446744073709551615
    let lamp : EntityDeclaration := ⟨"light.hall", "on", [("serial", serial)]⟩
    serial.WellFormed ∧
      ∃ (x : Binary64) (e : Entity), x.Nearest (18446744073709551615 : Int) ∧
        (AttributeValue.ofJson serial).toJson = .float x ∧
        AttributeValue.decode (.float x) = .ok (.number x) ∧
        lamp.toEntity ⟨0, 0⟩ = .ok e ∧ Entity.decode ⟨0, 0⟩ lamp.toJson = .ok e ∧
        e.attributes.get? "serial" = some (.number x) := by
  intro serial lamp
  have wellFormed : serial.WellFormed := .int (by decide)
  obtain ⟨-, beyond, -, -, again, -, -, declared, -⟩ := attribute_conversions_agree wellFormed
  obtain ⟨x, made, written, nearest⟩ := beyond _ rfl (by decide)
  have parsed : EntityId.parse "light.hall" =
      .ok ⟨"light", "hall", by decide, by decide, by decide⟩ := by rfl
  have given : lamp.toEntity ⟨0, 0⟩ =
      .ok ⟨⟨"light", "hall", by decide, by decide, by decide⟩, "on", .ofFields lamp.attributes,
        ⟨0, 0⟩⟩ := by
    rw [EntityDeclaration.toEntity, parsed]
    rfl
  rw [written, made] at again
  refine ⟨wellFormed, x, _, nearest, written, again, given, (declared _ _ _).1 given, ?_⟩
  rw [← made]
  rfl

end HomeVoice
