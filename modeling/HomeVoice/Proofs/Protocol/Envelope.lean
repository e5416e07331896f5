import HomeVoice.Protocol.Directive
import HomeVoice.Proofs.Fallible

/-!
# Envelopes

The message that holds a directive is read as that directive. So there is a message for every
directive of the one version of the protocol.
-/

namespace HomeVoice

/-! ## Records -/

namespace Record

variable {α β : Type} {fields : Dict Json} {position : Nat} {key name : String} {j : Json}
  {decode : Decoder α} {a b : α}

theorem read_required (found : fields.get? key = some j) (decoded : decode j = .ok a) :
    (required key decode).read (.fields fields) position = .ok a := by
  simp [required, field, found, decoded]

theorem read_defaulted (found : fields.get? key = some j) (decoded : decode j = .ok a) :
    (defaulted key decode b).read (.fields fields) position = .ok a := by
  simp [defaulted, field, found, decoded]

theorem read_defaulted_absent (absent : fields.get? key = none) :
    (defaulted key decode b).read (.fields fields) position = .ok b := by
  simp [defaulted, field, absent]

theorem read_map {f : α → β} {r : Record α} {source : RecordSource}
    (h : r.read source position = .ok a) : (f <$> r).read source position = .ok (f a) := by
  simp [Functor.map, map, h, Except.map]

theorem read_seq {f : Record (α → β)} {g : α → β} {r : Record α} {source : RecordSource}
    (hf : f.read source position = .ok g) (h : r.read source (position + f.size) = .ok a) :
    (f <*> r).read source position = .ok (g a) := by
  simp [Seq.seq, seq, hf, h]

theorem decode_obj {r : Record α} (h : r.read (.fields fields) 0 = .ok a) :
    r.decode name (.obj fields) = .ok a := by
  simp [Record.decode, decodeIn, h]

end Record

theorem Decoder.dict_json (fields : Dict Json) :
    Decoder.dict Decoder.json (.obj fields) = .ok fields := by
  unfold Decoder.dict Decoder.json
  induction fields with
  | nil => rfl
  | cons entry rest ih =>
    simp only [List.mapM_cons, Except.map] at ih ⊢
    rw [ih]
    rfl

theorem Dict.erase_of_get?_eq_none {α : Type} {k : String} {d : Dict α}
    (absent : d.get? k = none) : Dict.erase k d = d := by
  induction d with
  | nil => rfl
  | cons entry rest ih => grind [Dict.get?, Dict.erase]

theorem Dict.erase_insert {α : Type} (k : String) (v : α) (d : Dict α) :
    Dict.erase k (d.insert k v) = Dict.erase k d := by
  induction d with
  | nil => simp [insert, erase]
  | cons entry rest ih => grind [Dict.insert, Dict.erase]

/-! ## Directives -/

open Record (read_required read_defaulted read_defaulted_absent read_map read_seq decode_obj)

theorem Decoder.string_str (s : String) : Decoder.string (.str s) = .ok s :=
  rfl

theorem DirectiveHeader.decode_toJson (h : DirectiveHeader) : decode h.toJson = .ok h := by
  obtain ⟨nameSpace, name, messageId, token, version⟩ := h
  have text := Decoder.string_str
  -- The token is the only field that may be left out, and then nothing stands for it.
  cases token with
  | none =>
    have written : toJson ⟨nameSpace, name, messageId, none, version⟩ =
        .obj [("messageId", .str messageId), ("name", .str name), ("namespace", .str nameSpace),
          ("payloadVersion", .str version)] :=
      rfl
    rw [written]
    exact decode_obj (read_seq (read_seq (read_seq (read_seq
      (read_map (read_required rfl (text _))) (read_required rfl (text _)))
      (read_defaulted rfl (text _))) (read_defaulted_absent rfl)) (read_required rfl (text _)))
  | some token =>
    have written : toJson ⟨nameSpace, name, messageId, some token, version⟩ =
        .obj [("correlationToken", .str token), ("messageId", .str messageId), ("name", .str name),
          ("namespace", .str nameSpace), ("payloadVersion", .str version)] :=
      rfl
    rw [written]
    exact decode_obj (read_seq (read_seq (read_seq (read_seq
      (read_map (read_required rfl (text _))) (read_required rfl (text _)))
      (read_defaulted rfl (text _))) (read_defaulted rfl rfl)) (read_required rfl (text _)))

/-- A block without a second endpoint id is read as it was written. -/
theorem EndpointRef.decode_toJson {e : EndpointRef} (plain : e.extra.get? "endpointId" = none) :
    decode e.toJson = .ok e := by
  have found : (e.extra.insert "endpointId" (.str e.id.text)).get? "endpointId" =
      some (.str e.id.text) :=
    Dict.get?_insert_self ..
  simp only [toJson, decode, found, Dict.erase_insert, Dict.erase_of_get?_eq_none plain]
  rfl

namespace Directive

/-- The message that holds a directive. -/
def envelope (d : Directive) : Json :=
  .object [("directive", d.toJson)]

theorem decode_toJson {d : Directive}
    (plain : ∀ ref, d.endpoint = some ref → ref.extra.get? "endpointId" = none) :
    decode d.toJson = .ok d := by
  obtain ⟨header, endpoint, payload⟩ := d
  have readPayload : Payload.decode (.obj payload.fields) = .ok payload := by
    simp [Payload.decode, Decoder.dict_json, Except.map]
  cases endpoint with
  | none =>
    have written : toJson ⟨header, none, payload⟩ =
        .obj [("header", header.toJson), ("payload", .obj payload.fields)] :=
      rfl
    rw [written]
    exact decode_obj (read_seq (read_seq (read_map (read_required rfl header.decode_toJson))
      (read_defaulted_absent rfl)) (read_defaulted rfl readPayload))
  | some ref =>
    have written : toJson ⟨header, some ref, payload⟩ =
        .obj [("endpoint", ref.toJson), ("header", header.toJson),
          ("payload", .obj payload.fields)] :=
      rfl
    have readRef : EndpointRef.decode.optional ref.toJson = .ok (some ref) := by
      have := EndpointRef.decode_toJson (plain ref rfl)
      simp only [EndpointRef.toJson] at this ⊢
      simp [Decoder.optional, this, Except.map]
    rw [written]
    exact decode_obj (read_seq (read_seq (read_map (read_required rfl header.decode_toJson))
      (read_defaulted rfl readRef)) (read_defaulted rfl readPayload))

/-- A message is read as the directive that it holds. -/
theorem ofMessage_envelope {d : Directive} (version : d.header.payloadVersion = protocolVersion)
    (plain : ∀ ref, d.endpoint = some ref → ref.extra.get? "endpointId" = none) :
    ofMessage d.envelope = .ok d := by
  have held : decodeEnvelope d.envelope = .ok (some d.toJson) := decode_obj rfl
  simp only [ofMessage, held, mapError_ok, decode_toJson plain, bind, Except.bind, version,
    if_true]
  rfl

/-- A directive whose endpoint block is an id and nothing else is read from its message. -/
theorem ofMessage_envelope_of_plain {d : Directive} {id : EndpointId}
    (version : d.header.payloadVersion = protocolVersion)
    (about : d.endpoint = some ⟨id, []⟩) : ofMessage d.envelope = .ok d := by
  refine ofMessage_envelope version ?_
  intro ref named
  cases about.symm.trans named
  rfl

/-- A directive about an entity that asks for nothing beyond its name. -/
def addressed (nameSpace name : String) (id : EntityId) : Directive :=
  ⟨⟨nameSpace, name, "", none, protocolVersion⟩, some ⟨.ofEntityId id, []⟩, .empty⟩

theorem ofMessage_envelope_addressed (nameSpace name : String) (id : EntityId) :
    ofMessage (addressed nameSpace name id).envelope = .ok (addressed nameSpace name id) :=
  ofMessage_envelope_of_plain rfl rfl

end Directive

end HomeVoice
