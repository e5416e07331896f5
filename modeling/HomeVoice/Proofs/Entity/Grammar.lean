import HomeVoice.Entity.IndexedId
import HomeVoice.Proofs.Entity.Id
import HomeVoice.Proofs.Fallible

/-!
# The grammar of entity ids

An entity id is two names with a dot between them, neither of them empty and the first one without a
dot. Every text has at most one such form, so it can be read, cut at the first dot, exactly when it
has one; the cut is then never inside a character. Ids are the same, and are ordered, as their texts
are.
-/

namespace HomeVoice

/-- A text is the id of a domain name and a name within the domain. -/
structure EntityId.Names (s domainName objectName : String) : Prop where
  text : s = domainName ++ "." ++ objectName
  domainName_ne : domainName ≠ ""
  dot_notMem : '.' ∉ domainName.toList
  objectName_ne : objectName ≠ ""

namespace EntityId

variable {s d o d' o' : String}

/-- A text is cut at its first dot in one way. -/
theorem cut_unique (plain : '.' ∉ d.toList) (plain' : '.' ∉ d'.toList)
    (same : d ++ "." ++ o = d' ++ "." ++ o') : d = d' ∧ o = o' := by
  have first {d : String} (o : String) (plain : '.' ∉ d.toList) :
      (d ++ "." ++ o).toList.takeWhile (· ≠ '.') = d.toList := by
    have pass : ∀ c ∈ d.toList, decide (c ≠ '.') = true := by
      intro c member
      exact decide_eq_true fun dot => plain (dot ▸ member)
    have list : (d ++ "." ++ o).toList = d.toList ++ '.' :: o.toList := by
      simp [String.toList_append]
    rw [list, List.takeWhile_append_of_pos pass]
    simp
  have domains : d = d' := by
    rw [← String.toList_inj, ← first o plain, ← first o' plain', same]
  subst domains
  have objects := congrArg String.toList same
  simp only [String.toList_append] at objects
  exact ⟨rfl, String.toList_inj.1 (List.append_cancel_left objects)⟩

theorem Names.unique (names : Names s d o) (names' : Names s d' o') : d = d' ∧ o = o' :=
  cut_unique names.dot_notMem names'.dot_notMem (names.text.symm.trans names'.text)

/-- The id of a text that has two names. -/
def Names.toId (names : Names s d o) : EntityId where
  domainName := d
  objectName := o
  domainName_ne := by simpa using names.domainName_ne
  dot_not_mem := names.dot_notMem
  objectName_ne := by simpa using names.objectName_ne

theorem Names.text_toId (names : Names s d o) : names.toId.text = s :=
  names.text.symm

/-- The names of an id are the names of its text. -/
theorem names (id : EntityId) : Names id.text id.domainName id.objectName where
  text := rfl
  domainName_ne := by simpa using id.domainName_ne
  dot_notMem := id.dot_not_mem
  objectName_ne := by simpa using id.objectName_ne

/-- What is read of a text is the id of that text. -/
theorem parse_eq_ok_iff {id : EntityId} : parse s = .ok id ↔ id.text = s := by
  constructor
  · exact text_of_parse
  · rintro rfl
    exact id.parse_text

/-- A text that is not read is refused as empty or as malformed. -/
theorem parse_of_not_names (nonempty : s ≠ "") (not : ∀ d o, ¬Names s d o) :
    parse s = .error (.malformedEntityId s) := by
  cases read : parse s with
  | ok id => exact absurd (text_of_parse read ▸ id.names) (not _ _)
  | error e =>
    unfold parse at read
    rw [if_neg (by simpa using nonempty)] at read
    simp only at read
    split at read
    · cases read
    · exact congrArg Except.error (Except.error.inj read).symm

end EntityId

namespace IndexedId

open EntityId (Names)

variable {s d o : String}

/-- Where the first dot of a text is. -/
theorem find?_dot_cases (s : String) :
    ('.' ∉ s.toList ∧ s.find? '.' = none) ∨
      ∃ d o place, s = d ++ "." ++ o ∧ '.' ∉ d.toList ∧ s.find? '.' = some place ∧
        place.offset.byteIdx = d.utf8ByteSize := by
  cases found : s.find? '.' with
  | none =>
    refine .inl ⟨?_, rfl⟩
    rw [String.find?_eq_find?_toSlice, Option.map_eq_none_iff,
      String.Slice.find?_eq_none_iff] at found
    simpa using found
  | some place =>
    obtain ⟨d, o, splits, plain⟩ := String.find?_char_eq_some_iff_splits.1 found
    refine .inr ⟨d, o, place, ?_, plain, rfl, ?_⟩
    · rw [splits.eq_append, String.append_assoc]
      rfl
    · rw [splits.offset_eq_rawEndPos]
      rfl

/-- Both ways of keeping an id read the same texts. -/
theorem parse_eq (s : String) : parse s = (EntityId.parse s).map ofId := by
  by_cases empty : s = ""
  · subst empty
    rfl
  · have nonempty : s.isEmpty = false := by simpa using empty
    rw [parse, if_neg (by simp [nonempty])]
    rcases find?_dot_cases s with ⟨noDot, absent⟩ | ⟨d, o, place, cut, plain, found, at'⟩
    · have not : ∀ d o, ¬Names s d o := by
        intro d o names
        exact noDot (by simp [names.text, String.toList_append])
      rw [absent, EntityId.parse_of_not_names empty not]
      rfl
    · simp only [found, at']
      have size : s.utf8ByteSize = d.utf8ByteSize + 1 + o.utf8ByteSize := by
        rw [cut, String.utf8ByteSize_append, String.utf8ByteSize_append]
        rfl
      by_cases names : d ≠ "" ∧ o ≠ ""
      · have named : Names s d o := ⟨cut, names.1, plain, names.2⟩
        have before : 0 < d.utf8ByteSize := by
          exact Nat.pos_of_ne_zero fun zero => names.1 (String.utf8ByteSize_eq_zero_iff.1 zero)
        have after : 0 < o.utf8ByteSize := by
          exact Nat.pos_of_ne_zero fun zero => names.2 (String.utf8ByteSize_eq_zero_iff.1 zero)
        rw [if_pos ⟨before, by omega⟩, EntityId.parse_eq_ok_iff.2 named.text_toId]
        exact congrArg (fun text => Except.ok (IndexedId.mk text _)) named.text_toId.symm
      · have not : ∀ d' o', ¬Names s d' o' := by
          intro d' o' named
          obtain ⟨rfl, rfl⟩ :=
            EntityId.cut_unique plain named.dot_notMem (cut.symm.trans named.text)
          exact names ⟨named.domainName_ne, named.objectName_ne⟩
        have inside : ¬(0 < d.utf8ByteSize ∧ d.utf8ByteSize + 1 < s.utf8ByteSize) := by
          rintro ⟨before, after⟩
          refine names ⟨?_, ?_⟩
          · rintro rfl
            exact absurd before (by decide)
          · rintro rfl
            have : ("" : String).utf8ByteSize = 0 := rfl
            omega
        rw [if_neg inside, EntityId.parse_of_not_names empty not]
        rfl

theorem parse_eq_ok_iff {id : IndexedId} :
    parse s = .ok id ↔ ∃ e : EntityId, e.text = s ∧ ofId e = id := by
  rw [parse_eq, map_eq_ok]
  constructor
  · rintro ⟨e, read, same⟩
    exact ⟨e, EntityId.text_of_parse read, same⟩
  · rintro ⟨e, text, same⟩
    exact ⟨e, EntityId.parse_eq_ok_iff.2 text, same⟩

theorem domainName?_ofId (e : EntityId) : (ofId e).domainName? = some e.domainName := by
  have sliced := Text.slice?_middle "" e.domainName ("." ++ e.objectName)
  rw [String.empty_append, ← String.append_assoc] at sliced
  exact sliced

theorem objectName?_ofId (e : EntityId) : (ofId e).objectName? = some e.objectName := by
  have start : (e.domainName ++ ".").utf8ByteSize = e.domainName.utf8ByteSize + 1 :=
    String.utf8ByteSize_append
  have sliced := Text.slice?_middle (e.domainName ++ ".") e.objectName ""
  rw [String.append_empty, start] at sliced
  exact sliced

/-- The separator is a character of its own. -/
theorem isBoundary_separator (e : EntityId) :
    Text.IsBoundary e.text (ofId e).separator ∧ Text.IsBoundary e.text ((ofId e).separator + 1) := by
  constructor
  · rw [EntityId.text, String.append_assoc]
    exact Text.isBoundary_append e.domainName ("." ++ e.objectName)
  · have after := Text.isBoundary_append (e.domainName ++ ".") e.objectName
    rw [String.utf8ByteSize_append] at after
    exact after

/-- The place of the separator never decides the order: it is told by the text. -/
theorem compare_ofId (a b : EntityId) : compare (ofId a) (ofId b) = compare a.text b.text := by
  show (compare a.text b.text).then ((compare _ _).then .eq) = _
  cases order : compare a.text b.text with
  | lt => rfl
  | gt => rfl
  | eq =>
    obtain rfl := EntityId.text_inj (Std.compare_eq_iff_eq.1 order)
    simp

/-- The grammar of entity ids. A text is read exactly when it is a domain name, a dot and another
name, neither of them empty and the first one without a dot. What is read has that text and those
names, and is read again of what it is written as. The empty text is refused as empty, and every
other one that has no such names as malformed. The slices that give the names cut no character. Two
ids are the same, and are ordered, as the texts that they were read of are; and the ids that are
read are those of `EntityId.parse`. -/
theorem parse_grammar (s : String) :
    ((∃ id, parse s = .ok id) ↔ ∃ d o, Names s d o) ∧
    (∀ id d o, parse s = .ok id → Names s d o →
      id.text = s ∧ id.domainName? = some d ∧ id.objectName? = some o ∧
      id.domain?.map Domain.name = some d ∧ decode id.toJson = .ok id) ∧
    (s = "" → parse s = .error .emptyEntityId) ∧
    (s ≠ "" → (∀ d o, ¬Names s d o) → parse s = .error (.malformedEntityId s)) ∧
    (∀ id, parse s = .ok id →
      Text.IsBoundary s id.separator ∧ Text.IsBoundary s (id.separator + 1)) ∧
    (∀ s' id id', parse s = .ok id → parse s' = .ok id' →
      (id = id' ↔ s = s') ∧ compare id id' = compare s s') ∧
    parse s = (EntityId.parse s).map ofId := by
  refine ⟨?_, ?_, ?_, ?_, ?_, ?_, parse_eq s⟩
  · constructor
    · rintro ⟨id, read⟩
      obtain ⟨e, rfl, -⟩ := parse_eq_ok_iff.1 read
      exact ⟨_, _, e.names⟩
    · rintro ⟨d, o, names⟩
      exact ⟨_, parse_eq_ok_iff.2 ⟨names.toId, names.text_toId, rfl⟩⟩
  · intro id d o read names
    obtain ⟨e, rfl, rfl⟩ := parse_eq_ok_iff.1 read
    obtain ⟨rfl, rfl⟩ := names.unique e.names
    refine ⟨rfl, domainName?_ofId e, objectName?_ofId e, ?_, ?_⟩
    · rw [domain?, domainName?_ofId, Option.map_some, Option.map_some, Domain.name_ofName]
    · show (parse e.text).mapError _ = _
      rw [read]
      rfl
  · rintro rfl
    rfl
  · intro nonempty not
    rw [parse_eq, EntityId.parse_of_not_names nonempty not]
    rfl
  · intro id read
    obtain ⟨e, rfl, rfl⟩ := parse_eq_ok_iff.1 read
    exact isBoundary_separator e
  · intro s' id id' read read'
    obtain ⟨e, rfl, rfl⟩ := parse_eq_ok_iff.1 read
    obtain ⟨e', rfl, rfl⟩ := parse_eq_ok_iff.1 read'
    refine ⟨⟨congrArg text, ?_⟩, compare_ofId e e'⟩
    intro same
    rw [EntityId.text_inj same]

/-- An id with two dots and a letter of two bytes is cut at the first dot, after that letter. -/
theorem parse_grammar_accented :
    ∃ id, parse "café.a.b" = .ok id ∧ id.text = "café.a.b" ∧ id.domainName? = some "café" ∧
      id.objectName? = some "a.b" ∧ decode id.toJson = .ok id ∧
      Text.IsBoundary "café.a.b" id.separator := by
  have named : Names "café.a.b" "café" "a.b" :=
    ⟨by decide, by decide, by decide, by decide⟩
  obtain ⟨accepted, parts, -, -, boundaries, -⟩ := parse_grammar "café.a.b"
  obtain ⟨id, read⟩ := accepted.2 ⟨_, _, named⟩
  obtain ⟨text, domainName, objectName, -, again⟩ := parts id _ _ read named
  exact ⟨id, read, text, domainName, objectName, again, (boundaries id read).1⟩

end IndexedId

end HomeVoice
