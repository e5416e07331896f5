import HomeVoice.Entity.Domain
import HomeVoice.Error

/-!
# Entity ids

An entity is named by its domain and a name within the domain, with a dot between them. The
domain name has no dot, so that the first dot of an id is the separator; the other name may have
some. Neither is empty.
-/

namespace HomeVoice

/-- The id of an entity. -/
structure EntityId where
  domainName : String
  objectName : String
  domainName_ne : domainName.toList ≠ []
  dot_not_mem : '.' ∉ domainName.toList
  objectName_ne : objectName.toList ≠ []
  deriving DecidableEq

namespace EntityId

/-- The text of an id. -/
def text (id : EntityId) : String :=
  id.domainName ++ "." ++ id.objectName

/-- The domain of an id. -/
def domain (id : EntityId) : Domain :=
  .ofName id.domainName

/-- Ids are ordered like their texts. -/
instance : LT EntityId := ⟨fun a b => a.text < b.text⟩

instance (a b : EntityId) : Decidable (a < b) :=
  inferInstanceAs (Decidable (a.text < b.text))

/-- The id of a text, cut at the first dot. -/
def parse (s : String) : Except ValidationError EntityId :=
  if s.isEmpty then .error .emptyEntityId
  else
    let domain := s.toList.takeWhile (· ≠ '.')
    let object := (s.toList.dropWhile (· ≠ '.')).tail
    if h : domain ≠ [] ∧ object ≠ [] then
      .ok {
        domainName := .ofList domain
        objectName := .ofList object
        domainName_ne := by simpa using h.1
        dot_not_mem := by
          rw [String.toList_ofList]
          intro hc
          simpa using List.all_eq_true.1 List.all_takeWhile '.' hc
        objectName_ne := by simpa using h.2 }
    else .error (.malformedEntityId s)

/-- The first dot of a text is the one between the names. -/
theorem takeWhile_text (id : EntityId) :
    id.text.toList.takeWhile (· ≠ '.') = id.domainName.toList := by
  have h : ∀ c ∈ id.domainName.toList, decide (c ≠ '.') = true := fun c hc =>
    decide_eq_true fun hd => id.dot_not_mem (hd ▸ hc)
  have hs : id.text.toList = id.domainName.toList ++ '.' :: id.objectName.toList := by
    simp [text, String.toList_append]
  rw [hs, List.takeWhile_append_of_pos h]
  simp

theorem text_inj {a b : EntityId} (h : a.text = b.text) : a = b := by
  have hd : a.domainName = b.domainName :=
    String.toList_inj.1 (by rw [← takeWhile_text, ← takeWhile_text, h])
  have ho : a.objectName.toList = b.objectName.toList := by
    simpa [text, hd, String.toList_append] using congrArg String.toList h
  cases a
  cases b
  cases hd
  cases String.toList_inj.1 ho
  rfl

theorem lt_trans {a b c : EntityId} (hab : a < b) (hbc : b < c) : a < c :=
  String.lt_trans hab hbc

theorem lt_irrefl (a : EntityId) : ¬a < a :=
  String.lt_irrefl a.text

theorem lt_of_not_lt_of_ne {a b : EntityId} (h : ¬a < b) (hne : b ≠ a) : b < a := by
  rcases Std.lt_trichotomy b.text a.text with hlt | heq | hgt
  · exact hlt
  · exact absurd (text_inj heq) hne
  · exact absurd hgt h

/-- The name of an entity that has no name of its own: underscores read as spaces. -/
def spokenName (id : EntityId) : String :=
  .ofList (id.objectName.toList.map fun c => if c = '_' then ' ' else c)

/-- An id in JSON. -/
def decode : Decoder EntityId :=
  Decoder.string.filterMap fun s => (parse s).mapError fun e => .refused e.message

end EntityId

/-- The id by which the assistant names an entity. -/
structure EndpointId where
  text : String
  deriving DecidableEq

namespace EndpointId

/-- The endpoint id of an entity: each dot of its id becomes a number sign. -/
def ofEntityId (id : EntityId) : EndpointId :=
  ⟨.ofList (id.text.toList.map fun c => if c = '.' then '#' else c)⟩

/-- The entity that an endpoint id names: each number sign becomes a dot again. -/
def toEntityId (id : EndpointId) : Except ValidationError EntityId :=
  EntityId.parse (.ofList (id.text.toList.map fun c => if c = '#' then '.' else c))

end EndpointId

end HomeVoice
