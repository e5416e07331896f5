import HomeVoice.Hub.Table
import HomeVoice.Proofs.Hub.Frame
import Mathlib.Data.List.Induction
import Mathlib.Data.List.Nodup

/-!
# The table as a finite map

A table that starts from a list of entities, and is changed by storing entities and by calls, keeps
each entity under its own id and no two under one. So it is a map from ids to entities, whatever the
order of its slots: the list of all entities ascends strictly by their ids, and looking an id up
finds the one entity of the list that has it.
-/

namespace HomeVoice

/-! ## The order of ids -/

namespace EntityId

variable {a b c : EntityId}

/-- The separators decide nothing, for the text of an id says where its separator stands. -/
theorem order_eq_lt_iff : a.order b = .lt ↔ a < b := by
  have texts : compare a.text b.text = .lt ↔ a.text < b.text := compareOfLessAndEq_eq_lt
  unfold order
  rw [Ordering.then_eq_lt, texts]
  constructor
  · rintro (before | ⟨same, before⟩)
    · exact before
    · obtain rfl := text_inj (Std.compare_eq_iff_eq.1 same)
      cases before.symm.trans (Std.compare_eq_iff_eq.2 rfl)
  · intro before
    exact .inl before

theorem order_eq_eq_iff : a.order b = .eq ↔ a = b := by
  unfold order
  rw [Ordering.then_eq_eq]
  constructor
  · rintro ⟨same, -⟩
    exact text_inj (Std.compare_eq_iff_eq.1 same)
  · rintro rfl
    exact ⟨Std.compare_eq_iff_eq.2 rfl, Std.compare_eq_iff_eq.2 rfl⟩

theorem isLE_order_iff : (a.order b).isLE = true ↔ a < b ∨ a = b := by
  rw [Ordering.isLE_iff_eq_lt_or_eq_eq, order_eq_lt_iff, order_eq_eq_iff]

theorem isLE_order_trans (first : (a.order b).isLE = true) (second : (b.order c).isLE = true) :
    (a.order c).isLE = true := by
  rw [isLE_order_iff] at *
  rcases first with first | rfl
  · rcases second with second | rfl
    · exact .inl (lt_trans first second)
    · exact .inl first
  · exact second

theorem isLE_order_total (a b : EntityId) : (a.order b).isLE = true ∨ (b.order a).isLE = true := by
  rw [isLE_order_iff, isLE_order_iff]
  by_cases before : a < b
  · exact .inl (.inl before)
  · by_cases same : b = a
    · exact .inr (.inr same)
    · exact .inr (.inl (lt_of_not_lt_of_ne before same))

end EntityId

/-- There is one way to put items in strictly ascending order of their ids. -/
theorem eq_of_ascending {α : Type} (key : α → EntityId) {l l' : List α}
    (ascending : l.Pairwise fun x y => key x < key y)
    (ascending' : l'.Pairwise fun x y => key x < key y) (members : ∀ x, x ∈ l ↔ x ∈ l') :
    l = l' := by
  have different {x y : α} (before : key x < key y) : x ≠ y := by
    rintro rfl
    exact EntityId.lt_irrefl _ before
  have perm : l.Perm l' :=
    (List.perm_ext_iff_of_nodup (ascending.imp different) (ascending'.imp different)).2 members
  refine perm.eq_of_pairwise ?_ ascending ascending'
  intro x y _ _ before after
  exact absurd (EntityId.lt_trans before after) (EntityId.lt_irrefl _)

/-- A call does not change the id of the entity that it edits, even where it is rejected. -/
theorem Edit.id_run_call (c : ServiceCall) (now : Timestamp) (e : Entity) :
    ((Edit.call c now).run e).2.id = e.id := by
  rw [run_call]
  cases called : e.called c now with
  | error rejection => rfl
  | ok e' =>
    have applied : e.apply c now = .ok e' := by
      rw [Entity.apply_eq, called, mapError_ok]
    exact Entity.id_apply applied

namespace EntityTable

/-! ## Slots -/

section
variable {slots : List (EntityId × Entity)} {slot : EntityId × Entity} {key : EntityId} {e : Entity}

theorem find?_put (key : EntityId) (e : Entity) (slots : List (EntityId × Entity)) (id : EntityId) :
    (put key e slots).find? (fun slot => slot.1 = id) =
      if key = id then some (key, e) else slots.find? fun slot => slot.1 = id := by
  induction slots with
  | nil => by_cases h : key = id <;> simp [put, h]
  | cons slot rest ih =>
    unfold put
    by_cases here : slot.1 = key
    · by_cases h : key = id <;> simp [here, h]
    · rw [if_neg here]
      by_cases h : slot.1 = id
      · have different : key ≠ id := fun same => here (h.trans same.symm)
        simp [h, different]
      · simp [h, ih]

theorem mem_put (member : slot ∈ put key e slots) : slot = (key, e) ∨ slot ∈ slots := by
  induction slots with
  | nil => exact .inl (List.mem_singleton.1 member)
  | cons head rest ih =>
    unfold put at member
    split at member
    · next here =>
      rcases List.mem_cons.1 member with rfl | member
      · exact .inl (by rw [here])
      · exact .inr (List.mem_cons_of_mem _ member)
    · rcases List.mem_cons.1 member with rfl | member
      · exact .inr List.mem_cons_self
      · exact (ih member).imp_right (List.mem_cons_of_mem _)

/-- What is put under a key takes the slot of the key, or a new one at the end. -/
theorem keys_put (key : EntityId) (e : Entity) (slots : List (EntityId × Entity)) :
    (put key e slots).map Prod.fst =
      if key ∈ slots.map Prod.fst then slots.map Prod.fst else slots.map Prod.fst ++ [key] := by
  induction slots with
  | nil => rfl
  | cons slot rest ih =>
    unfold put
    by_cases here : slot.1 = key
    · simp [here]
    · by_cases later : key ∈ rest.map Prod.fst
      · simp only [if_neg here, List.map_cons, ih, if_pos later,
          if_pos (List.mem_cons_of_mem slot.1 later)]
      · have absent : key ∉ slot.1 :: rest.map Prod.fst :=
          List.not_mem_cons_of_ne_of_not_mem (Ne.symm here) later
        simp only [if_neg here, List.map_cons, ih, if_neg later, if_neg absent, List.cons_append]

theorem nodup_keys_put (distinct : (slots.map Prod.fst).Nodup) :
    ((put key e slots).map Prod.fst).Nodup := by
  rw [keys_put]
  split
  · exact distinct
  · next absent => exact List.concat_eq_append ▸ distinct.concat absent

end

/-! ## Tables -/

/-- Each entity stands under its own id, and no two stand under one. -/
structure Sound (t : EntityTable) : Prop where
  keyed : ∀ slot ∈ t.slots, slot.2.id = slot.1
  distinct : (t.slots.map Prod.fst).Nodup

variable {t t' : EntityTable} {e : Entity} {id : EntityId}

theorem Sound.set {key : EntityId} (sound : t.Sound) (own : e.id = key) : (t.set key e).Sound where
  keyed := by
    intro slot member
    rcases mem_put member with rfl | member
    · exact own
    · exact sound.keyed slot member
  distinct := nodup_keys_put sound.distinct

theorem Sound.upsert (sound : t.Sound) (e : Entity) : (t.upsert e).Sound :=
  sound.set rfl

theorem sound_empty : empty.Sound where
  keyed := by rintro slot ⟨⟩
  distinct := .nil

theorem sound_ofEntities (entities : List Entity) : (ofEntities entities).Sound :=
  List.foldlRecOn entities upsert sound_empty fun _ sound e _ => sound.upsert e

theorem all_perm (t : EntityTable) : t.all.Perm (t.slots.map Prod.snd) :=
  List.mergeSort_perm _ _

theorem length_all (t : EntityTable) : t.all.length = t.size := by
  rw [t.all_perm.length_eq, List.length_map, size]

theorem Sound.ids_perm (sound : t.Sound) : (t.all.map Entity.id).Perm (t.slots.map Prod.fst) := by
  have keys : (t.slots.map Prod.snd).map Entity.id = t.slots.map Prod.fst := by
    rw [List.map_map]
    exact List.map_congr_left sound.keyed
  exact keys ▸ t.all_perm.map Entity.id

theorem Sound.nodup_ids (sound : t.Sound) : (t.all.map Entity.id).Nodup :=
  sound.ids_perm.nodup_iff.2 sound.distinct

/-- All entities are listed in strictly ascending order of their ids. -/
theorem Sound.ascending (sound : t.Sound) : AscendingIds t.all := by
  have sorted : t.all.Pairwise fun a b => (a.id.order b.id).isLE = true := by
    refine List.pairwise_mergeSort ?_ ?_ _
    · intro a b c first second
      exact EntityId.isLE_order_trans first second
    · intro a b
      rw [Bool.or_eq_true]
      exact EntityId.isLE_order_total a.id b.id
  have different : t.all.Pairwise fun a b => a.id ≠ b.id :=
    List.pairwise_map.1 sound.nodup_ids
  refine (sorted.and different).imp ?_
  rintro a b ⟨upTo, different⟩
  exact (EntityId.isLE_order_iff.1 upTo).resolve_right different

theorem Sound.get?_eq_some_iff_slot (sound : t.Sound) :
    t.get? id = some e ↔ (id, e) ∈ t.slots := by
  rw [get?, Option.map_eq_some_iff]
  constructor
  · rintro ⟨⟨key, x⟩, found, rfl⟩
    obtain ⟨member, rfl⟩ := (find?_key_eq_some_iff Prod.fst sound.distinct).1 found
    exact member
  · intro member
    exact ⟨(id, e), (find?_key_eq_some_iff Prod.fst sound.distinct).2 ⟨member, rfl⟩, rfl⟩

/-- Looking an id up finds the entity of the list that has it. -/
theorem Sound.get?_eq_some_iff (sound : t.Sound) :
    t.get? id = some e ↔ e ∈ t.all ∧ e.id = id := by
  rw [sound.get?_eq_some_iff_slot, t.all_perm.mem_iff]
  constructor
  · intro member
    exact ⟨List.mem_map_of_mem member, sound.keyed _ member⟩
  · rintro ⟨member, rfl⟩
    obtain ⟨slot, stored, rfl⟩ := List.mem_map.1 member
    rwa [sound.keyed slot stored]

theorem Sound.mem_all_iff (sound : t.Sound) : e ∈ t.all ↔ t.get? e.id = some e := by
  rw [sound.get?_eq_some_iff, and_iff_left rfl]

/-- Tables that find the same list the same. -/
theorem Sound.all_congr (sound : t.Sound) (sound' : t'.Sound)
    (same : ∀ id, t'.get? id = t.get? id) : t'.all = t.all := by
  refine eq_of_ascending Entity.id sound'.ascending sound.ascending ?_
  intro e
  rw [sound'.mem_all_iff, sound.mem_all_iff, same]

/-- The order of the slots is not seen. -/
theorem Sound.of_perm (sound : t.Sound) (perm : t'.slots.Perm t.slots) : t'.Sound where
  keyed := fun slot member => sound.keyed slot (perm.mem_iff.1 member)
  distinct := (perm.map Prod.fst).nodup_iff.2 sound.distinct

theorem Sound.get?_of_perm (sound : t.Sound) (perm : t'.slots.Perm t.slots) (id : EntityId) :
    t'.get? id = t.get? id := by
  refine Option.ext ?_
  intro e
  rw [sound.get?_eq_some_iff_slot, (sound.of_perm perm).get?_eq_some_iff_slot, perm.mem_iff]

/-! ## What changes a table -/

theorem get?_set (t : EntityTable) (key : EntityId) (e : Entity) (id : EntityId) :
    (t.set key e).get? id = if key = id then some e else t.get? id := by
  rw [get?, set, find?_put]
  split <;> rfl

theorem get?_upsert : (t.upsert e).get? id = if e.id = id then some e else t.get? id :=
  t.get?_set e.id e id

/-- Putting an entity in the place of one with its id leaves the ids as they were. -/
theorem Sound.ids_set {key : EntityId} (sound : t.Sound) (own : e.id = key)
    (stored : t.get? key ≠ none) : (t.set key e).all.map Entity.id = t.all.map Entity.id := by
  obtain ⟨x, found⟩ := Option.ne_none_iff_exists'.1 stored
  have present : key ∈ t.slots.map Prod.fst :=
    List.mem_map_of_mem (sound.get?_eq_some_iff_slot.1 found)
  have keys : (t.set key e).slots.map Prod.fst = t.slots.map Prod.fst :=
    (keys_put key e t.slots).trans (if_pos present)
  have sound' : (t.set key e).Sound := sound.set own
  refine eq_of_ascending id (List.pairwise_map.2 sound'.ascending)
    (List.pairwise_map.2 sound.ascending) ?_
  intro id
  rw [sound'.ids_perm.mem_iff, sound.ids_perm.mem_iff, keys]

variable {c : ServiceCall} {now : Timestamp}

/-- A call edits its target in its slot, or fails because there is none. -/
theorem Sound.attempt_cases (sound : t.Sound) (c : ServiceCall) (now : Timestamp) :
    (t.get? c.target = none ∧
      t.attempt c now = (.error (.notFound "Entity" c.target.text), t)) ∨
    ∃ e done, t.get? c.target ≠ none ∧ e.id = c.target ∧
      t.attempt c now = (done, t.set c.target e) ∧
        ∀ what id, done ≠ .error (.notFound what id) := by
  unfold attempt
  cases found : t.get? c.target with
  | none => exact .inl ⟨rfl, rfl⟩
  | some e =>
    have own : e.id = c.target := (sound.get?_eq_some_iff.1 found).2
    refine .inr ⟨_, _, Option.some_ne_none e, (Edit.id_run_call c now e).trans own, rfl, ?_⟩
    intro what id failed
    obtain ⟨rejection, -, rejected⟩ := mapError_eq_error.1 failed
    cases rejected

theorem Sound.attempt (sound : t.Sound) (c : ServiceCall) (now : Timestamp) :
    (t.attempt c now).2.Sound := by
  rcases sound.attempt_cases c now with ⟨-, failed⟩ | ⟨e, done, -, own, edited, -⟩
  · rw [failed]
    exact sound
  · rw [edited]
    exact sound.set own

theorem Sound.get?_attempt_of_ne (sound : t.Sound) (other : id ≠ c.target) :
    (t.attempt c now).2.get? id = t.get? id := by
  rcases sound.attempt_cases c now with ⟨-, failed⟩ | ⟨e, done, -, -, edited, -⟩
  · rw [failed]
  · rw [edited, get?_set, if_neg other.symm]

/-- No call adds or removes an entity. -/
theorem Sound.ids_attempt (sound : t.Sound) (c : ServiceCall) (now : Timestamp) :
    (t.attempt c now).2.all.map Entity.id = t.all.map Entity.id := by
  rcases sound.attempt_cases c now with ⟨-, failed⟩ | ⟨e, done, stored, own, edited, -⟩
  · rw [failed]
  · rw [edited, sound.ids_set own stored]

theorem Sound.attempt_notFound_iff (sound : t.Sound) (c : ServiceCall) (now : Timestamp) :
    (∃ what id, (t.attempt c now).1 = .error (.notFound what id)) ↔ t.get? c.target = none := by
  rcases sound.attempt_cases c now with ⟨absent, failed⟩ | ⟨e, done, stored, -, edited, served⟩
  · rw [failed]
    exact ⟨fun _ => absent, fun _ => ⟨_, _, rfl⟩⟩
  · rw [edited]
    constructor
    · rintro ⟨what, id, failed⟩
      exact absurd failed (served what id)
    · intro absent
      exact absurd absent stored

/-- The last entity of an id is the one that a table keeps. -/
theorem get?_ofEntities (entities : List Entity) (id : EntityId) :
    (ofEntities entities).get? id = (entities.filter fun e => e.id = id).getLast? := by
  induction entities using List.reverseRecOn with
  | nil => rfl
  | append_singleton entities e ih =>
    have stored : ofEntities (entities ++ [e]) = (ofEntities entities).upsert e :=
      List.foldl_concat _ _ _ _
    rw [stored, get?_upsert, ih, List.filter_append]
    by_cases own : e.id = id
    · simp [own]
    · simp [own]

end EntityTable

/-! ## Runs -/

/-- What can be done to the virtual hub. -/
inductive HubOperation where
  | upsert (e : Entity)
  | call (c : ServiceCall) (now : Timestamp)

namespace EntityTable

variable {t : EntityTable}

/-- The table after an operation, whether it is a call that fails or not. -/
def perform (t : EntityTable) : HubOperation → EntityTable
  | .upsert e => t.upsert e
  | .call c now => (t.attempt c now).2

/-- The table after some operations, one after another. -/
def performAll (t : EntityTable) (operations : List HubOperation) : EntityTable :=
  operations.foldl perform t

theorem Sound.perform (sound : t.Sound) (operation : HubOperation) :
    (t.perform operation).Sound := by
  cases operation with
  | upsert e => exact sound.upsert e
  | call c now => exact sound.attempt c now

theorem Sound.performAll (sound : t.Sound) (operations : List HubOperation) :
    (t.performAll operations).Sound := by
  induction operations generalizing t with
  | nil => exact sound
  | cons operation rest ih => exact ih (sound.perform operation)

/-- A table that starts from a list of entities is a finite map, whatever is stored and called
afterwards. The list of all entities ascends strictly by their ids and has as many entities as the
table has. An id is looked up as the entity of the list that has it, or as nothing. To begin with
this is the last of the entities that have the id. Storing an entity changes what its own id is
looked up as and nothing else. A call changes nothing but what its target is looked up as, neither
adds an id nor removes one, whether it is accepted or not, and does not find its target exactly when
there is none. In which order the slots are is not seen. -/
theorem finite_map (entities : List Entity) (operations : List HubOperation) :
    let t := (ofEntities entities).performAll operations
    t.all.Pairwise (fun e e' => e.id < e'.id) ∧
      (∀ id e, t.get? id = some e ↔ e ∈ t.all ∧ e.id = id) ∧
      t.size = t.all.length ∧
      (∀ id, (ofEntities entities).get? id = (entities.filter fun e => e.id = id).getLast?) ∧
      (∀ e, (t.upsert e).get? e.id = some e ∧
        ∀ id, id ≠ e.id → (t.upsert e).get? id = t.get? id) ∧
      (∀ c now,
        (∀ id, id ≠ c.target → (t.attempt c now).2.get? id = t.get? id) ∧
        (t.attempt c now).2.all.map Entity.id = t.all.map Entity.id ∧
        ((∃ what id, (t.attempt c now).1 = .error (.notFound what id)) ↔
          t.get? c.target = none)) ∧
      ∀ t' : EntityTable, t'.slots.Perm t.slots →
        t'.all = t.all ∧ t'.size = t.size ∧ ∀ id, t'.get? id = t.get? id := by
  intro t
  have sound : t.Sound := (sound_ofEntities entities).performAll operations
  refine ⟨sound.ascending, fun id e => sound.get?_eq_some_iff, t.length_all.symm,
    get?_ofEntities entities, ?_, ?_, ?_⟩
  · intro e
    refine ⟨get?_upsert.trans (if_pos rfl), ?_⟩
    intro id other
    exact get?_upsert.trans (if_neg other.symm)
  · intro c now
    exact ⟨fun id other => sound.get?_attempt_of_ne other, sound.ids_attempt c now,
      sound.attempt_notFound_iff c now⟩
  · intro t' perm
    have same := sound.get?_of_perm perm
    exact ⟨sound.all_congr (sound.of_perm perm) same, perm.length_eq, same⟩

end EntityTable

/-- A script that is not running. -/
def Entity.evening : Entity :=
  ⟨⟨"script", "evening", by decide, by decide, by decide⟩, "off", .empty, ⟨0, 0⟩⟩

/-- The script while it is running. -/
def Entity.eveningOn : Entity :=
  { Entity.evening with state := "on" }

/-- The name of a script that there is not. -/
def EntityId.morning : EntityId :=
  { Entity.evening.id with objectName := "morning", objectName_ne := by decide }

/-- Of a script that is given twice the second counts. To call a service that there is not, and to
call a script that there is not, leaves it alone. -/
theorem EntityTable.finite_map_evening :
    let t := (ofEntities [Entity.evening, Entity.eveningOn]).performAll
      [.call (.own Entity.evening.id "lock_up") ⟨1, 0⟩, .call (.own .morning "turn_on") ⟨2, 0⟩]
    t.all = [Entity.eveningOn] ∧
      (∃ what id, (t.attempt (.own .morning "turn_off") ⟨3, 0⟩).1 = .error (.notFound what id)) ∧
      (t.attempt (.own .morning "turn_off") ⟨3, 0⟩).2.get? Entity.evening.id =
        some Entity.eveningOn := by
  intro t
  obtain ⟨-, found_iff, size, -, -, calls, -⟩ :=
    finite_map [Entity.evening, Entity.eveningOn]
      [.call (.own Entity.evening.id "lock_up") ⟨1, 0⟩, .call (.own .morning "turn_on") ⟨2, 0⟩]
  obtain ⟨others, -, notFound_iff⟩ := calls (.own .morning "turn_off") ⟨3, 0⟩
  have found : t.get? Entity.evening.id = some Entity.eveningOn := rfl
  have one : t.all.length = 1 := size.symm
  obtain ⟨e, all⟩ := List.length_eq_one_iff.1 one
  have listed : Entity.eveningOn ∈ t.all := ((found_iff _ _).1 found).1
  have different : Entity.evening.id ≠ .morning := by decide
  refine ⟨?_, notFound_iff.2 rfl, (others _ different).trans found⟩
  rw [all] at listed ⊢
  rw [List.mem_singleton.1 listed]

end HomeVoice
