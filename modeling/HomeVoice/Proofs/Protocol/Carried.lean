import HomeVoice.Proofs.Json.Object
import HomeVoice.Proofs.Json.Record
import HomeVoice.Protocol.Response

/-!
# What a message carries and an answer repeats

A message carries a correlation token and the block that names an endpoint, each of which may be
missing or `null`. What a directive that has been read keeps of them is enough to repeat both: the
token as it was, and the block as the same object.
-/

namespace HomeVoice

namespace Json

/-- The correlation token that a message carries. -/
def carriedToken? (message : Json) : Option Json := do
  let directive ← message.part? "directive" 0
  let header ← directive.part? "header" 0
  let token ← header.part? "correlationToken" 3
  token.given?

/-- The block that a message carries to name an endpoint. -/
def carriedEndpoint? (message : Json) : Option Json := do
  let directive ← message.part? "directive" 0
  let endpoint ← directive.part? "endpoint" 1
  endpoint.given?

end Json

open Record (read_map_eq_ok read_seq_eq_ok read_required_eq_ok read_defaulted_eq_ok
  given_of_read_optional held_of_read_nullable source_of_decode)

/-- A header keeps the token that it was read from. -/
theorem DirectiveHeader.token_of_decode {j : Json} {h : DirectiveHeader}
    (decoded : decode j = .ok h) :
    (j.part? "correlationToken" 3).bind Json.given? = h.correlationToken.map Json.str := by
  obtain ⟨source, whole, read⟩ := source_of_decode decoded
  -- The fields are taken off from the last one, the version, to the first.
  obtain ⟨_, _, readToToken, -, rfl⟩ := read_seq_eq_ok.1 read
  obtain ⟨_, token, readToId, readToken, rfl⟩ := read_seq_eq_ok.1 readToToken
  obtain ⟨_, _, readToName, -, rfl⟩ := read_seq_eq_ok.1 readToId
  obtain ⟨_, _, readToNameSpace, -, rfl⟩ := read_seq_eq_ok.1 readToName
  obtain ⟨_, -, rfl⟩ := read_map_eq_ok.1 readToNameSpace
  rw [Json.part?_of_source whole]
  rcases given_of_read_optional readToken with ⟨held, text, given, decoded, rfl⟩ | ⟨given, rfl⟩
  · refine given.trans ?_
    cases held with
    | str s =>
      cases decoded
      rfl
    | _ => cases decoded
  · exact given

/-- A block keeps all that it was read from. -/
theorem EndpointRef.sameObject_of_decode {j : Json} {ref : EndpointRef}
    (decoded : decode j = .ok ref) : ref.toJson.SameObject j := by
  cases j with
  | obj fields =>
    simp only [decode] at decoded
    cases named : Dict.get? fields "endpointId" with
    | none =>
      rw [named] at decoded
      cases decoded
    | some id =>
      simp only [named] at decoded
      obtain ⟨text, read, rfl⟩ := map_eq_ok.1 decoded
      refine ⟨_, fields, rfl, rfl, ?_⟩
      intro key
      by_cases same : key = "endpointId"
      · subst same
        rw [Dict.get?_insert_self, named]
        cases id with
        | str s =>
          cases read
          rfl
        | _ => cases read
      · rw [Dict.get?_insert_of_ne same, Dict.get?_erase_of_ne same]
  | _ => cases decoded

namespace Directive

variable {message : Json} {d : Directive}

/-- The directive of a message was read from what stands in its place. -/
theorem exists_decode_of_ofMessage (hd : ofMessage message = .ok d) :
    ∃ raw, message.part? "directive" 0 = some raw ∧ decode raw = .ok d := by
  obtain ⟨envelope, opened, read⟩ := bind_eq_ok.1 hd
  cases envelope with
  | none => cases read
  | some raw =>
    obtain ⟨_, ⟨⟩, read⟩ := bind_eq_ok.1 read
    obtain ⟨d', decoded, checked⟩ := bind_eq_ok.1 read
    obtain rfl : d' = d := by
      split at checked
      · exact Except.ok.inj checked
      · cases checked
    obtain ⟨source, whole, readEnvelope⟩ := source_of_decode (mapError_eq_ok.1 opened)
    obtain ⟨j, found, ⟨⟩⟩ := held_of_read_nullable readEnvelope
    exact ⟨raw, by rw [Json.part?_of_source whole, found], mapError_eq_ok.1 decoded⟩

/-- What is read of a directive, by the places of its parts. -/
theorem parts_of_decode {j : Json} (decoded : decode j = .ok d) :
    (∃ header, j.part? "header" 0 = some header ∧ DirectiveHeader.decode header = .ok d.header) ∧
    ((∃ endpoint ref, (j.part? "endpoint" 1).bind Json.given? = some endpoint ∧
        EndpointRef.decode endpoint = .ok ref ∧ d.endpoint = some ref) ∨
      (j.part? "endpoint" 1).bind Json.given? = none ∧ d.endpoint = none) := by
  obtain ⟨source, whole, read⟩ := source_of_decode decoded
  obtain ⟨_, _, readToEndpoint, -, rfl⟩ := read_seq_eq_ok.1 read
  obtain ⟨_, endpoint, readToHeader, readEndpoint, rfl⟩ := read_seq_eq_ok.1 readToEndpoint
  obtain ⟨header, readHeader, rfl⟩ := read_map_eq_ok.1 readToHeader
  simp only [Json.part?_of_source whole]
  exact ⟨read_required_eq_ok.1 readHeader, given_of_read_optional readEndpoint⟩

/-- A directive keeps the token that its message carries. -/
theorem token_of_ofMessage (hd : ofMessage message = .ok d) :
    message.carriedToken? = d.header.correlationToken.map Json.str := by
  obtain ⟨raw, found, decoded⟩ := exists_decode_of_ofMessage hd
  obtain ⟨⟨header, foundHeader, decodedHeader⟩, -⟩ := parts_of_decode decoded
  rw [← DirectiveHeader.token_of_decode decodedHeader]
  simp only [Json.carriedToken?, found, foundHeader, Option.bind_eq_bind, Option.bind_some]

/-- The block that a directive keeps is the same object as the one that its message carries. -/
theorem endpoint_of_ofMessage (hd : ofMessage message = .ok d) :
    Option.Rel Json.SameObject (d.endpoint.map EndpointRef.toJson) message.carriedEndpoint? := by
  obtain ⟨raw, found, decoded⟩ := exists_decode_of_ofMessage hd
  have carried : message.carriedEndpoint? = (raw.part? "endpoint" 1).bind Json.given? := by
    simp only [Json.carriedEndpoint?, found, Option.bind_eq_bind, Option.bind_some]
  obtain ⟨-, ⟨endpoint, ref, given, read, kept⟩ | ⟨notGiven, notKept⟩⟩ := parts_of_decode decoded
  · rw [carried, given, kept]
    exact .some (EndpointRef.sameObject_of_decode read)
  · rw [carried, notGiven, notKept]
    exact .none

end Directive

end HomeVoice
