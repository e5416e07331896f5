import HomeVoice.Proofs.Json.Ignored
import HomeVoice.Proofs.Protocol.Carried
import HomeVoice.Proofs.Protocol.Envelope

/-!
# Which messages are directives

A message is accepted exactly when it has the form of a directive: the fields that must be there are
there, and every field that is read has its type. A message of that form in another version of the
protocol is refused for its version, and every other message as malformed. Fields that are not read
decide nothing, and a directive that has been accepted is read again from the message that it is
written as.
-/

namespace HomeVoice

/-! ## The form of a message -/

namespace Json

/-- A header of a version: an object, since nothing else has fields. -/
structure IsHeader (j : Json) (version : String) : Prop where
  nameSpace : ∃ s, j.field? "namespace" = some (.str s)
  name : ∃ s, j.field? "name" = some (.str s)
  messageId : j.field? "messageId" = none ∨ ∃ s, j.field? "messageId" = some (.str s)
  token : j.field? "correlationToken" = none ∨ j.field? "correlationToken" = some .null ∨
    ∃ s, j.field? "correlationToken" = some (.str s)
  version : j.field? "payloadVersion" = some (.str version)

/-- A directive of a version, as it stands in a message. -/
structure IsDirective (j : Json) (version : String) : Prop where
  header : ∃ header, j.field? "header" = some header ∧ header.IsHeader version
  endpoint : j.field? "endpoint" = none ∨ j.field? "endpoint" = some .null ∨
    ∃ block id, j.field? "endpoint" = some block ∧ block.field? "endpointId" = some (.str id)
  payload : j.field? "payload" = none ∨ ∃ fields, j.field? "payload" = some (.obj fields)

/-- A message that holds a directive of a version. -/
def HoldsDirective (message : Json) (version : String) : Prop :=
  ∃ j, message.field? "directive" = some j ∧ j.IsDirective version

/-- The value is no array. -/
def NoArray (j : Json) : Prop :=
  ∀ items, j ≠ .arr items

/-- The payload that a message carries. -/
def carriedPayload? (message : Json) : Option Json := do
  let directive ← message.part? "directive" 0
  directive.part? "payload" 2

end Json

/-- An error that says that the message has not the form of a directive. -/
def ProtocolError.IsMalformed : ProtocolError → Prop
  | .noDirective | .malformed _ => True
  | .unsupportedVersion _ => False

open Record

/-! ## Fields of objects -/

theorem Decoder.string_eq_ok {j : Json} {s : String} : Decoder.string j = .ok s ↔ j = .str s := by
  cases j <;> simp [string, view, Json.str?]

namespace Record

variable {α : Type} {fields : Dict Json} {position : Nat} {key name : String}
  {decode : Decoder α} {r : Record α} {a : α}

theorem decode_obj_eq_ok :
    r.decode name (.obj fields) = .ok a ↔ r.read (.fields fields) 0 = .ok a :=
  mapError_eq_ok

theorem read_required_string {s : String} :
    (required key Decoder.string).read (.fields fields) position = .ok s ↔
      Dict.get? fields key = some (.str s) := by
  rw [read_required_eq_ok]
  constructor
  · rintro ⟨j, found, text⟩
    exact Decoder.string_eq_ok.1 text ▸ found
  · intro found
    exact ⟨_, found, rfl⟩

/-- The field is there and is a text. -/
theorem exists_held_string_iff :
    (∃ j s, Dict.get? fields key = some j ∧ Decoder.string j = .ok s) ↔
      ∃ s, Dict.get? fields key = some (.str s) := by
  constructor
  · rintro ⟨j, s, found, text⟩
    exact ⟨s, Decoder.string_eq_ok.1 text ▸ found⟩
  · rintro ⟨s, found⟩
    exact ⟨_, s, found, rfl⟩

theorem exists_read_defaulted_iff :
    (∃ b, (defaulted key decode a).read (.fields fields) position = .ok b) ↔
      Dict.get? fields key = none ∨ ∃ j b, Dict.get? fields key = some j ∧ decode j = .ok b := by
  constructor
  · rintro ⟨b, read⟩
    rcases read_defaulted_eq_ok.1 read with ⟨j, found, decoded⟩ | ⟨absent, -⟩
    · exact .inr ⟨j, b, found, decoded⟩
    · exact .inl absent
  · rintro (absent | ⟨j, b, found, decoded⟩)
    · exact ⟨a, read_defaulted_absent absent⟩
    · exact ⟨b, read_defaulted found decoded⟩

/-- A field that may be missing or `null`. -/
theorem exists_read_optional_iff :
    (∃ x, (defaulted key decode.optional none).read (.fields fields) position = .ok x) ↔
      Dict.get? fields key = none ∨ Dict.get? fields key = some .null ∨
        ∃ j b, Dict.get? fields key = some j ∧ decode j = .ok b := by
  rw [exists_read_defaulted_iff]
  refine or_congr_right ?_
  constructor
  · rintro ⟨j, x, found, decoded⟩
    rcases optional_eq_ok.1 decoded with ⟨b, -, held, -⟩ | ⟨missing, -⟩
    · exact .inr ⟨j, b, found, held⟩
    · cases j with
      | null => exact .inl found
      | _ => cases missing
  · rintro (null | ⟨j, b, found, decoded⟩)
    · exact ⟨.null, none, null, rfl⟩
    · by_cases null : j = .null
      · exact ⟨j, none, found, null ▸ rfl⟩
      · have given : j.given? = some j := by
          cases j with
          | null => exact absurd rfl null
          | _ => rfl
        exact ⟨j, some b, found, optional_eq_ok.2 (.inl ⟨b, given, decoded, rfl⟩)⟩

end Record

/-! ## What has the form is read -/

/-- A header that is no array is read exactly when it has the form of one. -/
theorem DirectiveHeader.exists_decode_iff {j : Json} (noArray : j.NoArray) {version : String} :
    (∃ h, decode j = .ok h ∧ h.payloadVersion = version) ↔ j.IsHeader version := by
  constructor
  · rintro ⟨h, decoded, rfl⟩
    cases j with
    | obj fields =>
      have read := decode_obj_eq_ok.1 decoded
      obtain ⟨_, version, readToVersion, readVersion, rfl⟩ := read_seq_eq_ok.1 read
      obtain ⟨_, token, readToToken, readToken, rfl⟩ := read_seq_eq_ok.1 readToVersion
      obtain ⟨_, id, readToId, readId, rfl⟩ := read_seq_eq_ok.1 readToToken
      obtain ⟨_, name, readToName, readName, rfl⟩ := read_seq_eq_ok.1 readToId
      obtain ⟨nameSpace, readNameSpace, rfl⟩ := read_map_eq_ok.1 readToName
      have hasId := exists_read_defaulted_iff.1 ⟨_, readId⟩
      have hasToken := exists_read_optional_iff.1 ⟨_, readToken⟩
      exact {
        nameSpace := ⟨_, read_required_string.1 readNameSpace⟩
        name := ⟨_, read_required_string.1 readName⟩
        messageId := hasId.imp_right exists_held_string_iff.1
        token := hasToken.imp_right (Or.imp_right exists_held_string_iff.1)
        version := read_required_string.1 readVersion }
    | arr items => exact absurd rfl (noArray items)
    | _ => cases decoded
  · intro form
    cases j with
    | obj fields =>
      obtain ⟨nameSpace, foundNameSpace⟩ := form.nameSpace
      obtain ⟨name, foundName⟩ := form.name
      obtain ⟨id, readId⟩ : ∃ id, (defaulted "messageId" Decoder.string "").read
          (.fields fields) 2 = .ok id :=
        exists_read_defaulted_iff.2 (form.messageId.imp_right exists_held_string_iff.2)
      obtain ⟨token, readToken⟩ : ∃ token, (defaulted "correlationToken"
          (Decoder.optional Decoder.string) none).read (.fields fields) 3 = .ok token :=
        exists_read_optional_iff.2
          (form.token.imp_right (Or.imp_right exists_held_string_iff.2))
      refine ⟨⟨nameSpace, name, id, token, version⟩, decode_obj_eq_ok.2 ?_, rfl⟩
      exact read_seq (read_seq (read_seq (read_seq
        (read_map (read_required_string.2 foundNameSpace)) (read_required_string.2 foundName))
        readId) readToken) (read_required_string.2 form.version)
    | _ =>
      obtain ⟨s, found⟩ := form.name
      cases found

/-- A block is read exactly when it names an endpoint. -/
theorem EndpointRef.exists_decode_iff {j : Json} :
    (∃ ref, decode j = .ok ref) ↔ ∃ id, j.field? "endpointId" = some (.str id) := by
  cases j with
  | obj fields =>
    simp only [decode, Json.field?, Json.fields?, Option.bind_some]
    cases Dict.get? fields "endpointId" with
    | none => simp
    | some id =>
      simp only [Option.some_inj, map_eq_ok, Decoder.string_eq_ok]
      constructor
      · rintro ⟨ref, s, text, -⟩
        exact ⟨s, text⟩
      · rintro ⟨s, text⟩
        exact ⟨_, s, text, rfl⟩
  | _ => simp [decode, Json.field?, Json.fields?]

theorem Payload.decode_eq_ok {j : Json} {p : Payload} : decode j = .ok p ↔ j = .obj p.fields := by
  cases j with
  | obj fields =>
    have all : decode (.obj fields) = .ok ⟨fields⟩ := by
      simp [decode, Decoder.dict_json, Except.map]
    rw [all]
    constructor
    · rintro ⟨⟩
      rfl
    · rintro ⟨⟩
      rfl
  | _ => simp [decode, Decoder.dict, Except.map]

namespace Directive

/-- A directive is read exactly when it has the form of one. -/
theorem exists_decode_iff {j : Json} (noArray : j.NoArray)
    (noArrayInside : ∀ header, j.field? "header" = some header → header.NoArray)
    {version : String} :
    (∃ d, decode j = .ok d ∧ d.header.payloadVersion = version) ↔ j.IsDirective version := by
  constructor
  · rintro ⟨d, decoded, rfl⟩
    cases j with
    | obj fields =>
      have read := decode_obj_eq_ok.1 decoded
      obtain ⟨_, payload, readToPayload, readPayload, rfl⟩ := read_seq_eq_ok.1 read
      obtain ⟨_, endpoint, readToEndpoint, readEndpoint, rfl⟩ := read_seq_eq_ok.1 readToPayload
      obtain ⟨h, readHeader, rfl⟩ := read_map_eq_ok.1 readToEndpoint
      obtain ⟨header, found, decodedHeader⟩ := read_required_eq_ok.1 readHeader
      refine ⟨⟨header, found, ?_⟩, ?_, ?_⟩
      · exact (DirectiveHeader.exists_decode_iff (noArrayInside header found)).1
          ⟨h, decodedHeader, rfl⟩
      · rcases exists_read_optional_iff.1 ⟨_, readEndpoint⟩ with
          absent | null | ⟨block, ref, found, decodedBlock⟩
        · exact .inl absent
        · exact .inr (.inl null)
        · obtain ⟨id, named⟩ := EndpointRef.exists_decode_iff.1 ⟨ref, decodedBlock⟩
          exact .inr (.inr ⟨block, id, found, named⟩)
      · rcases exists_read_defaulted_iff.1 ⟨_, readPayload⟩ with absent | ⟨j, p, found, decoded⟩
        · exact .inl absent
        · exact .inr ⟨p.fields, Payload.decode_eq_ok.1 decoded ▸ found⟩
    | arr items => exact absurd rfl (noArray items)
    | _ => cases decoded
  · intro form
    obtain ⟨header, found, headed⟩ := form.header
    cases j with
    | obj fields =>
      obtain ⟨h, decodedHeader, hasVersion⟩ :=
        (DirectiveHeader.exists_decode_iff (noArrayInside header found)).2 headed
      obtain ⟨endpoint, readEndpoint⟩ : ∃ endpoint, (defaulted "endpoint"
          EndpointRef.decode.optional none).read (.fields fields) 1 = .ok endpoint := by
        refine exists_read_optional_iff.2 (form.endpoint.imp_right (Or.imp_right ?_))
        rintro ⟨block, id, found, named⟩
        obtain ⟨ref, decoded⟩ := EndpointRef.exists_decode_iff.2 ⟨id, named⟩
        exact ⟨block, ref, found, decoded⟩
      obtain ⟨payload, readPayload⟩ : ∃ payload, (defaulted "payload" Payload.decode
          .empty).read (.fields fields) 2 = .ok payload := by
        refine exists_read_defaulted_iff.2 (form.payload.imp_right ?_)
        rintro ⟨entries, found⟩
        exact ⟨_, ⟨entries⟩, found, Payload.decode_eq_ok.2 rfl⟩
      refine ⟨⟨h, endpoint, payload⟩, decode_obj_eq_ok.2 ?_, hasVersion⟩
      exact read_seq (read_seq (read_map (read_required found decodedHeader)) readEndpoint)
        readPayload
    | _ => cases found

/-! ## What is read of a message -/

/-- A directive that has been read, unless it is of another version of the protocol. -/
def checked (d : Directive) : Except ProtocolError Directive :=
  if d.header.payloadVersion = protocolVersion then .ok d
  else .error (.unsupportedVersion d.header.payloadVersion)

/-- The directive of what a message holds. -/
def ofHeld : Option Json → Except ProtocolError Directive
  | none => .error .noDirective
  | some raw => ((decode raw).mapError .malformed).bind checked

theorem ofMessage_eq (message : Json) :
    ofMessage message = ((decodeEnvelope message).mapError .malformed).bind ofHeld := by
  unfold ofMessage
  cases decodeEnvelope message with
  | error e => rfl
  | ok held =>
    cases held with
    | none => rfl
    | some raw =>
      simp only [mapError_ok, bind, Except.bind, ofHeld]
      cases decode raw with
      | error e => rfl
      | ok d =>
        simp only [mapError_ok, checked]
        split <;> rfl

/-- A message is either read as a directive and checked for its version, or malformed. -/
theorem ofMessage_cases (message : Json) :
    (∃ raw d, decodeEnvelope message = .ok (some raw) ∧ decode raw = .ok d ∧
      ofMessage message = d.checked) ∨
    (∀ raw d, decodeEnvelope message = .ok (some raw) → decode raw ≠ .ok d) ∧
      ∃ e, ofMessage message = .error e ∧ e.IsMalformed := by
  rw [ofMessage_eq]
  cases decodeEnvelope message with
  | error e =>
    refine .inr ⟨?_, .malformed e, rfl, trivial⟩
    rintro raw d ⟨⟩
  | ok held =>
    cases held with
    | none =>
      refine .inr ⟨?_, .noDirective, rfl, trivial⟩
      rintro raw d ⟨⟩
    | some raw =>
      cases decoded : decode raw with
      | error e =>
        refine .inr ⟨?_, .malformed e, ?_, trivial⟩
        · rintro raw d ⟨⟩ read
          cases decoded.symm.trans read
        · simp only [mapError_ok, Except.bind, ofHeld, decoded]
          rfl
      | ok d =>
        refine .inl ⟨raw, d, rfl, decoded, ?_⟩
        simp only [mapError_ok, Except.bind, ofHeld, decoded]

theorem decodeEnvelope_obj (fields : Dict Json) :
    decodeEnvelope (.obj fields) = .ok ((Dict.get? fields "directive").bind Json.given?) := by
  refine decode_obj_eq_ok.2 ?_
  show Record.read (field _ _ _ _) _ _ = _
  simp only [field]
  cases Dict.get? fields "directive" with
  | none => rfl
  | some j => cases j <;> rfl

/-- An object that holds no array in the place of a directive or its header holds a directive of a
version exactly when one of that version is read of it. -/
theorem holdsDirective_iff {fields : Dict Json}
    (noArray : ∀ j, Dict.get? fields "directive" = some j → j.NoArray)
    (noArrayInside : ∀ j header, Dict.get? fields "directive" = some j →
      j.field? "header" = some header → header.NoArray) {version : String} :
    (Json.obj fields).HoldsDirective version ↔
      ∃ raw d, decodeEnvelope (.obj fields) = .ok (some raw) ∧ decode raw = .ok d ∧
        d.header.payloadVersion = version := by
  rw [decodeEnvelope_obj]
  constructor
  · rintro ⟨j, found, form⟩
    have found : Dict.get? fields "directive" = some j := found
    obtain ⟨d, decoded, hasVersion⟩ :=
      (exists_decode_iff (noArray j found) fun header => noArrayInside j header found).2 form
    refine ⟨j, d, ?_, decoded, hasVersion⟩
    rw [found]
    cases j with
    | null => cases decoded
    | _ => rfl
  · rintro ⟨raw, d, given, decoded, hasVersion⟩
    have given := Except.ok.inj given
    obtain ⟨j, found, same⟩ := Option.bind_eq_some_iff.1 given
    obtain rfl : j = raw := by
      cases j with
      | null => cases same
      | _ => exact Option.some.inj same
    exact ⟨j, found, (exists_decode_iff (noArray j found)
      fun header => noArrayInside j header found).1 ⟨d, decoded, hasVersion⟩⟩

/-- When what is held is what can be read, messages are told apart by what they hold. -/
theorem accepted_iff {message : Json}
    (holds : ∀ version, message.HoldsDirective version ↔
      ∃ raw d, decodeEnvelope message = .ok (some raw) ∧ decode raw = .ok d ∧
        d.header.payloadVersion = version) :
    ((∃ d, ofMessage message = .ok d) ↔ message.HoldsDirective "3") ∧
    (∀ version, ofMessage message = .error (.unsupportedVersion version) ↔
      message.HoldsDirective version ∧ version ≠ "3") ∧
    ((∃ e, ofMessage message = .error e ∧ e.IsMalformed) ↔
      ∀ version, ¬message.HoldsDirective version) := by
  rcases ofMessage_cases message with ⟨raw, d, held, decoded, result⟩ | ⟨nothing, e, refused, fault⟩
  · -- The one version that the message holds decides.
    have only (version : String) :
        message.HoldsDirective version ↔ d.header.payloadVersion = version := by
      rw [holds]
      constructor
      · rintro ⟨raw', d', held', decoded', hasVersion⟩
        cases held.symm.trans held'
        cases decoded.symm.trans decoded'
        exact hasVersion
      · intro hasVersion
        exact ⟨raw, d, held, decoded, hasVersion⟩
    by_cases current : d.header.payloadVersion = "3"
    · have accepted : ofMessage message = .ok d := result.trans (if_pos current)
      simp only [accepted, only, current]
      refine ⟨by simp, ?_, ?_⟩
      · intro version
        constructor
        · rintro ⟨⟩
        · rintro ⟨same, other⟩
          exact absurd same.symm other
      · constructor
        · rintro ⟨e, ⟨⟩, -⟩
        · intro holdsNone
          exact absurd rfl (holdsNone _)
    · have refused : ofMessage message =
          .error (.unsupportedVersion d.header.payloadVersion) :=
        result.trans (if_neg current)
      simp only [refused, only]
      refine ⟨by simp [current], ?_, ?_⟩
      · intro version
        constructor
        · rintro ⟨⟩
          exact ⟨rfl, current⟩
        · rintro ⟨rfl, -⟩
          rfl
      · constructor
        · rintro ⟨e, ⟨⟩, ⟨⟩⟩
        · intro holdsNone
          exact absurd rfl (holdsNone _)
  · have holdsNone (version : String) : ¬message.HoldsDirective version := by
      rw [holds]
      rintro ⟨raw, d, held, decoded, -⟩
      exact nothing raw d held decoded
    simp only [refused, holdsNone, not_false_eq_true, implies_true, iff_true]
    refine ⟨by simp, ?_, ⟨e, rfl, fault⟩⟩
    intro version
    constructor
    · rintro ⟨⟩
      exact fault.elim
    · rintro ⟨⟨⟩, -⟩

/-! ## What decides nothing -/

end Directive

/-- The fields of a header that are read. -/
def DirectiveHeader.keys : List String :=
  ["namespace", "name", "messageId", "correlationToken", "payloadVersion"]

theorem DirectiveHeader.decode_add {key : String} (unread : key ∉ keys) (value j : Json) :
    decode (j.add key value) = decode j := by
  simp only [keys, List.mem_cons, List.not_mem_nil, not_or] at unread
  obtain ⟨nameSpace, name, messageId, token, version, -⟩ := unread
  exact (((((Ignores.field_add (Ne.symm nameSpace)).map _).seq
    (.field_add (Ne.symm name))).seq (.field_add (Ne.symm messageId))).seq
    (.field_add (Ne.symm token))).seq (.field_add (Ne.symm version)) |>.decode_add j

namespace Directive

/-- The fields of a directive that are read. -/
def keys : List String :=
  ["header", "endpoint", "payload"]

theorem decode_add {key : String} (unread : key ∉ keys) (value j : Json) :
    decode (j.add key value) = decode j := by
  simp only [keys, List.mem_cons, List.not_mem_nil, not_or] at unread
  obtain ⟨header, endpoint, payload, -⟩ := unread
  exact (((Ignores.field_add (Ne.symm header)).map _).seq
    (.field_add (Ne.symm endpoint))).seq (.field_add (Ne.symm payload)) |>.decode_add j

/-- A header may be replaced by one that is read in the same way. -/
theorem decode_alter {f : Json → Json}
    (unseen : ∀ j, DirectiveHeader.decode (f j) = DirectiveHeader.decode j) (j : Json) :
    decode (j.alter "header" 0 f) = decode j := by
  have endpoint : "endpoint" ≠ "header" := by decide
  have payload : "payload" ≠ "header" := by decide
  exact (((Ignores.field_alter unseen).map _).seq
    (.field_alter_of_ne endpoint (by decide))).seq
    (.field_alter_of_ne payload (by decide)) |>.decode_alter j

theorem decodeEnvelope_alter {f : Json → Json} (kept : ∀ j, (f j).given? = j.given?.map f)
    (message : Json) :
    decodeEnvelope (message.alter "directive" 0 f) = (decodeEnvelope message).map (Option.map f) := by
  have alone (j : Json) : decodeEnvelope (.arr [j]) = .ok j.given? := by
    cases j <;> rfl
  have surplus (j k : Json) (rest : List Json) :
      decodeEnvelope (.arr (j :: k :: rest)) = .error (.tooLong (rest.length + 2)) := by
    cases j <;> rfl
  cases message with
  | obj fields =>
    simp only [Json.alter, decodeEnvelope_obj, Dict.get?_alter_self]
    cases Dict.get? fields "directive" with
    | none => rfl
    | some j => exact congrArg Except.ok (kept j)
  | arr items =>
    cases items with
    | nil => rfl
    | cons j rest =>
      cases rest with
      | nil =>
        show decodeEnvelope (.arr [f j]) = _
        rw [alone, alone, kept]
        rfl
      | cons k rest =>
        show decodeEnvelope (.arr (f j :: k :: rest)) = _
        rw [surplus, surplus]
        rfl
  | _ => rfl

/-- A directive may be replaced in its message by one that is read in the same way. -/
theorem ofMessage_alter {f : Json → Json} (kept : ∀ j, (f j).given? = j.given?.map f)
    (unseen : ∀ j, decode (f j) = decode j) (message : Json) :
    ofMessage (message.alter "directive" 0 f) = ofMessage message := by
  have held (x : Option Json) : ofHeld (x.map f) = ofHeld x := by
    cases x with
    | none => rfl
    | some raw => simp only [Option.map_some, ofHeld, unseen]
  rw [ofMessage_eq, ofMessage_eq, decodeEnvelope_alter kept]
  cases decodeEnvelope message with
  | error e => rfl
  | ok x => exact held x

/-! ## What is kept -/

/-- What a directive keeps of its message: every field of the block that names an endpoint, and the
payload as it is. -/
structure Keeps (d : Directive) (message : Json) : Prop where
  endpoint : Option.Rel Json.SameObject (d.endpoint.map EndpointRef.toJson) message.carriedEndpoint?
  extra : ∀ ref block, d.endpoint = some ref → message.carriedEndpoint? = some block →
    ∀ key, key ≠ "endpointId" → Dict.get? ref.extra key = block.field? key
  payload : message.carriedPayload?.getD (.obj []) = .obj d.payload.fields

variable {message : Json} {d : Directive}

theorem payload_of_decode {j : Json} (decoded : decode j = .ok d) :
    (j.part? "payload" 2).getD (.obj []) = .obj d.payload.fields := by
  obtain ⟨source, whole, read⟩ := source_of_decode decoded
  obtain ⟨_, payload, readToPayload, readPayload, rfl⟩ := read_seq_eq_ok.1 read
  obtain ⟨_, endpoint, readToEndpoint, -, rfl⟩ := read_seq_eq_ok.1 readToPayload
  obtain ⟨header, -, rfl⟩ := read_map_eq_ok.1 readToEndpoint
  rw [Json.part?_of_source whole]
  rcases read_defaulted_eq_ok.1 readPayload with ⟨j, found, decoded⟩ | ⟨absent, rfl⟩
  · have found : source.part? "payload" 2 = some j := found
    rw [found]
    exact Payload.decode_eq_ok.1 decoded
  · have absent : source.part? "payload" 2 = none := absent
    rw [absent]
    rfl

theorem keeps_of_ofMessage (hd : ofMessage message = .ok d) : d.Keeps message where
  endpoint := endpoint_of_ofMessage hd
  extra := by
    intro ref block named carried key other
    have same := endpoint_of_ofMessage hd
    rw [named, carried] at same
    obtain ⟨⟨fields, fields', written, rfl, same⟩⟩ := same
    obtain rfl := Json.obj.inj written
    exact (Dict.get?_insert_of_ne other _ _).symm.trans (same key)
  payload := by
    obtain ⟨raw, found, decoded⟩ := exists_decode_of_ofMessage hd
    rw [← payload_of_decode decoded]
    simp only [Json.carriedPayload?, found, Option.bind_eq_bind, Option.bind_some]

theorem version_of_ofMessage (hd : ofMessage message = .ok d) :
    d.header.payloadVersion = protocolVersion := by
  rcases ofMessage_cases message with ⟨raw, d', -, -, checked'⟩ | ⟨-, e, refused, -⟩
  · rw [hd, checked] at checked'
    split at checked'
    · next version => exact Except.ok.inj checked' ▸ version
    · cases checked'
  · cases hd.symm.trans refused

/-- A block that has been read keeps its id apart from the rest. -/
theorem plain_of_ofMessage (hd : ofMessage message = .ok d) (ref : EndpointRef)
    (named : d.endpoint = some ref) : Dict.get? ref.extra "endpointId" = none := by
  obtain ⟨raw, -, decoded⟩ := exists_decode_of_ofMessage hd
  obtain ⟨-, ⟨block, ref', -, read, held⟩ | ⟨-, missing⟩⟩ := parts_of_decode decoded
  · obtain rfl := Option.some.inj (named.symm.trans held)
    cases block with
    | obj fields =>
      simp only [EndpointRef.decode] at read
      split at read
      · obtain ⟨id, -, rfl⟩ := map_eq_ok.1 read
        exact Dict.get?_erase_self "endpointId" fields
      · cases read
    | _ => cases read
  · cases named.symm.trans missing

/-- How messages are read. A directive that has been read of a message is read again of the message
that it is written as. An object without arrays in the places of the directive and its header is
accepted exactly when it holds a directive of version 3; it is refused for its version exactly when
it holds one of that other version, and as malformed exactly when it holds none. Fields that are
added to the message, the directive or the header and have no place there change nothing, also not
the reason of a refusal. And a directive keeps the payload and all fields of the block that names
its endpoint. -/
theorem ofMessage_laws (message : Json) :
    (∀ d, ofMessage message = .ok d → ofMessage d.envelope = .ok d) ∧
    (∀ fields, message = .obj fields →
      (∀ j, message.field? "directive" = some j → j.NoArray) →
      (∀ header, message.at? ["directive", "header"] = some header → header.NoArray) →
      ((∃ d, ofMessage message = .ok d) ↔ message.HoldsDirective "3") ∧
      (∀ version, ofMessage message = .error (.unsupportedVersion version) ↔
        message.HoldsDirective version ∧ version ≠ "3") ∧
      ((∃ e, ofMessage message = .error e ∧ e.IsMalformed) ↔
        ∀ version, ¬message.HoldsDirective version)) ∧
    (∀ key value,
      (key ≠ "directive" → ofMessage (message.add key value) = ofMessage message) ∧
      (key ∉ keys →
        ofMessage (message.alter "directive" 0 fun j => j.add key value) = ofMessage message) ∧
      (key ∉ DirectiveHeader.keys →
        ofMessage (message.alter "directive" 0 fun j => j.alter "header" 0 fun header =>
          header.add key value) = ofMessage message)) ∧
    ∀ d, ofMessage message = .ok d → d.Keeps message := by
  refine ⟨?_, ?_, ?_, fun d => keeps_of_ofMessage⟩
  · intro d hd
    exact ofMessage_envelope (version_of_ofMessage hd) (plain_of_ofMessage hd)
  · rintro fields rfl noArray noArrayInside
    have noArrayHeader : ∀ j header, Dict.get? fields "directive" = some j →
        j.field? "header" = some header → header.NoArray := by
      intro j header found inside
      refine noArrayInside header ?_
      show (Option.bind (Dict.get? fields "directive") _) = _
      rw [found]
      show Option.bind (j.field? "header") _ = _
      rw [inside]
      rfl
    exact accepted_iff fun version => holdsDirective_iff noArray noArrayHeader
  · intro key value
    refine ⟨?_, ?_, ?_⟩
    · intro unread
      rw [ofMessage_eq, ofMessage_eq]
      have same : decodeEnvelope (message.add key value) = decodeEnvelope message :=
        (Ignores.field_add (Ne.symm unread)).decode_add message
      rw [same]
    · intro unread
      exact ofMessage_alter (fun j => j.given?_add key value)
        (fun j => decode_add unread value j) message
    · intro unread
      exact ofMessage_alter (fun j => j.given?_alter "header" 0 _)
        (fun j => decode_alter (fun j => DirectiveHeader.decode_add unread value j) j) message

/-- A message in an older version of the protocol, which gives neither a token nor an endpoint. -/
def outdated : Json :=
  .obj [("directive", .obj [
    ("endpoint", .null),
    ("header", .obj [("correlationToken", .null), ("name", .str "TurnOn"),
      ("namespace", .str "Alexa.PowerController"), ("payloadVersion", .str "2")])])]

/-- It has the form of a directive, and is refused for nothing but its version. -/
theorem ofMessage_laws_outdated :
    outdated.HoldsDirective "2" ∧ ofMessage outdated = .error (.unsupportedVersion "2") := by
  have holds : outdated.HoldsDirective "2" := by
    refine ⟨_, rfl, ⟨_, rfl, ?_⟩, .inr (.inl rfl), .inl rfl⟩
    exact ⟨⟨_, rfl⟩, ⟨_, rfl⟩, .inl rfl, .inr (.inl rfl), rfl⟩
  obtain ⟨-, accepted, -, -⟩ := ofMessage_laws outdated
  obtain ⟨-, refused, -⟩ := accepted _ rfl
    (by rintro j ⟨⟩ items ⟨⟩) (by rintro j ⟨⟩ items ⟨⟩)
  exact ⟨holds, (refused "2").2 ⟨holds, by decide⟩⟩

end Directive

end HomeVoice
