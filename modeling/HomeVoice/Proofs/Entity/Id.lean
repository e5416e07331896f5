import HomeVoice.Entity.Id

/-!
# Ids of entities and of endpoints

The text of an entity id reads back as the id. An endpoint id leads back to the entity that it was
made for exactly when the entity id has no number sign of its own.
-/

namespace HomeVoice

namespace EntityId

variable (id : EntityId)

theorem domainName_eq : id.domainName = id.domain.name :=
  (Domain.name_ofName _).symm

theorem toList_text : id.text.toList = id.domainName.toList ++ '.' :: id.objectName.toList := by
  simp [text, String.toList_append]

theorem dropWhile_text : id.text.toList.dropWhile (· ≠ '.') = '.' :: id.objectName.toList := by
  have whole : id.text.toList.takeWhile (· ≠ '.') ++ id.text.toList.dropWhile (· ≠ '.') =
      id.text.toList :=
    List.takeWhile_append_dropWhile
  rw [takeWhile_text] at whole
  exact List.append_cancel_left (whole.trans id.toList_text)

/-- The text of an id reads back as the id. -/
theorem parse_text : parse id.text = .ok id := by
  have nonempty : id.text.isEmpty = false := by
    have : id.text.toList ≠ [] := by simp [toList_text]
    simpa [String.isEmpty_iff, ← String.toList_eq_nil_iff] using this
  have names : id.domainName.toList ≠ [] ∧ id.objectName.toList ≠ [] :=
    ⟨id.domainName_ne, id.objectName_ne⟩
  unfold parse
  simp only [nonempty, Bool.false_eq_true, if_false, takeWhile_text, dropWhile_text,
    List.tail_cons, String.ofList_toList]
  exact dif_pos names

/-- What follows the first name of a text starts with a dot. -/
theorem dropWhile_eq_cons {l : List Char} (named : (l.dropWhile (· ≠ '.')).tail ≠ []) :
    l.dropWhile (· ≠ '.') = '.' :: (l.dropWhile (· ≠ '.')).tail := by
  cases rest : l.dropWhile (· ≠ '.') with
  | nil => exact absurd (congrArg List.tail rest) named
  | cons c object =>
    have dot := List.head?_dropWhile_not (fun c => decide (c ≠ '.')) l
    rw [rest] at dot
    simpa using dot

/-- An id that has been read has the text that it was read from. -/
theorem text_of_parse {s : String} {id : EntityId} (read : parse s = .ok id) : id.text = s := by
  unfold parse at read
  split at read
  · cases read
  · simp only at read
    split at read
    · next names =>
      cases read
      rw [← String.toList_inj, toList_text, String.toList_ofList, String.toList_ofList,
        ← dropWhile_eq_cons names.2]
      exact List.takeWhile_append_dropWhile
    · cases read

end EntityId

namespace EndpointId

variable {id id' : EntityId}

/-- An endpoint id leads back to the entity that it was made for. -/
theorem toEntityId_ofEntityId (plain : '#' ∉ id.text.toList) :
    (ofEntityId id).toEntityId = .ok id := by
  have back : (id.text.toList.map fun c => if c = '.' then '#' else c).map
      (fun c => if c = '#' then '.' else c) = id.text.toList := by
    rw [List.map_map]
    refine (List.map_congr_left ?_).trans (List.map_id _)
    intro c member
    have notSign : c ≠ '#' := fun sign => plain (sign ▸ member)
    by_cases dot : c = '.' <;> simp [dot, notSign]
  rw [toEntityId, ofEntityId, String.toList_ofList, back, String.ofList_toList,
    EntityId.parse_text]

/-- And it does so for no other entity: no id that is led to has a number sign. -/
theorem notMem_of_toEntityId {endpoint : EndpointId} (leads : endpoint.toEntityId = .ok id) :
    '#' ∉ id.text.toList := by
  rw [EntityId.text_of_parse leads, String.toList_ofList]
  intro member
  obtain ⟨c, -, sign⟩ := List.mem_map.1 member
  grind

theorem toEntityId_ofEntityId_iff :
    (ofEntityId id).toEntityId = .ok id ↔ '#' ∉ id.text.toList :=
  ⟨notMem_of_toEntityId, toEntityId_ofEntityId⟩

/-- An endpoint id of an entity leads to none but entities of that endpoint id. -/
theorem ofEntityId_of_toEntityId (leads : (ofEntityId id).toEntityId = .ok id') :
    ofEntityId id' = ofEntityId id := by
  have again : ((id.text.toList.map fun c => if c = '.' then '#' else c).map
      fun c => if c = '#' then '.' else c).map (fun c => if c = '.' then '#' else c) =
        id.text.toList.map fun c => if c = '.' then '#' else c := by
    rw [List.map_map, List.map_map]
    apply List.map_congr_left
    intro c _
    by_cases dot : c = '.'
    · simp [dot]
    · by_cases sign : c = '#' <;> simp [dot, sign]
  rw [ofEntityId, EntityId.text_of_parse leads, ofEntityId, String.toList_ofList,
    String.toList_ofList, again]

/-- Entities without number signs in their ids have endpoint ids of their own. -/
theorem ofEntityId_inj (plain : '#' ∉ id.text.toList) (plain' : '#' ∉ id'.text.toList)
    (same : ofEntityId id = ofEntityId id') : id = id' := by
  have read := toEntityId_ofEntityId plain
  rw [same, toEntityId_ofEntityId plain'] at read
  exact (Except.ok.inj read).symm

end EndpointId

end HomeVoice
