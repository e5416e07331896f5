import HomeVoice.Json.Token

/-!
# Reading JSON

The second stage: `Json.parse?` reads the tokens one after the other and keeps the containers that
are still open on a stack. Of several fields with one key the last counts.
-/

namespace HomeVoice.Json

/-- A container that is still open. The items of an array are kept in reverse, and the field of an
object whose value comes next stands apart. -/
inductive Frame where
  | array (items : List Json)
  | object (fields : Dict Json)
  | member (fields : Dict Json) (key : String)

/-- What the text must go on with. -/
inductive Expecting where
  | value
  | valueOrClose
  | key
  | keyOrClose
  | colon
  | commaOrClose
  | nothing (result : Json)

/-- A state of reading. -/
structure ReadState where
  expecting : Expecting
  stack : List Frame

/-- The state after a whole value has been read. -/
def ReadState.complete (v : Json) : List Frame → ReadState
  | .array items :: rest => ⟨.commaOrClose, .array (v :: items) :: rest⟩
  | .member fields key :: rest => ⟨.commaOrClose, .object (fields.insert key v) :: rest⟩
  | stack => ⟨.nothing v, stack⟩

/-- The state after a token; none where the token cannot stand, and where more than `depth`
containers would be open. -/
def ReadState.next? (depth : Nat) (s : ReadState) (token : Token) : Option ReadState :=
  match s.expecting, token, s.stack with
  | .value, .scalar v, stack | .valueOrClose, .scalar v, stack => some (.complete v stack)
  | .value, .openArray, stack | .valueOrClose, .openArray, stack =>
    if stack.length < depth then some ⟨.valueOrClose, .array [] :: stack⟩ else none
  | .value, .openObject, stack | .valueOrClose, .openObject, stack =>
    if stack.length < depth then some ⟨.keyOrClose, .object [] :: stack⟩ else none
  | .valueOrClose, .closeArray, .array items :: rest
  | .commaOrClose, .closeArray, .array items :: rest =>
    some (.complete (.arr items.reverse) rest)
  | .keyOrClose, .closeObject, .object fields :: rest
  | .commaOrClose, .closeObject, .object fields :: rest =>
    some (.complete (.obj fields) rest)
  | .key, .scalar (.str key), .object fields :: rest
  | .keyOrClose, .scalar (.str key), .object fields :: rest =>
    some ⟨.colon, .member fields key :: rest⟩
  | .colon, .colon, stack => some ⟨.value, stack⟩
  | .commaOrClose, .comma, .array items :: rest => some ⟨.value, .array items :: rest⟩
  | .commaOrClose, .comma, .object fields :: rest => some ⟨.key, .object fields :: rest⟩
  | _, _, _ => none

/-- The value of a list of tokens that nests at most `depth` containers. -/
def ofTokens? (depth : Nat) (tokens : List Token) : Option Json := do
  let last ← tokens.foldlM (ReadState.next? depth) ⟨.value, []⟩
  match last.expecting with
  | .nothing v => some v
  | _ => none

/-- The value of a text that nests at most `depth` containers. -/
def parse? (depth : Nat) (s : String) : Option Json :=
  (tokens? s).bind (ofTokens? depth)

end HomeVoice.Json
