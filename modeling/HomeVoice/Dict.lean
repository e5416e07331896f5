/-!
# Dictionaries

A dictionary is a list of entries with text keys. `Dict.insert` keeps the entries in ascending
order of their keys, by code points, so that a dictionary built from entries in any order has one
form. What a dictionary holds is said by `Dict.get?`; `get?_insert_self` and `get?_insert_of_ne`
describe insertion through it.
-/

namespace HomeVoice

/-- Entries with text keys. -/
abbrev Dict (α : Type) := List (String × α)

namespace Dict

variable {α β : Type}

/-- The value of a key, that of its first entry. -/
def get? : Dict α → String → Option α
  | [], _ => none
  | (key, value) :: rest, k => if key = k then some value else get? rest k

/-- The dictionary with the value of one key set. -/
def insert (k : String) (v : α) : Dict α → Dict α
  | [] => [(k, v)]
  | (key, value) :: rest =>
    if k < key then (k, v) :: (key, value) :: rest
    else if key = k then (k, v) :: rest
    else (key, value) :: insert k v rest

/-- The dictionary of a list of entries, where the last one of a key counts. -/
def ofEntries (entries : List (String × α)) : Dict α :=
  entries.foldl (fun d (k, v) => d.insert k v) []

/-- Whether a key has a value. -/
def contains (d : Dict α) (k : String) : Bool :=
  (d.get? k).isSome

/-- The dictionary without a key. -/
def erase (k : String) (d : Dict α) : Dict α :=
  d.filter fun (key, _) => key != k

/-- The keys in the order of the entries. -/
def keys (d : Dict α) : List String :=
  d.map Prod.fst

/-- The dictionary with each value replaced by its image. -/
def mapValues (f : α → β) (d : Dict α) : Dict β :=
  d.map fun (k, v) => (k, f v)

/-- The entries stand in strictly ascending order of their keys. -/
def Ascending (d : Dict α) : Prop :=
  d.Pairwise fun a b => a.1 < b.1

theorem get?_insert_self (k : String) (v : α) (d : Dict α) : (d.insert k v).get? k = some v := by
  induction d with
  | nil => simp [insert, get?]
  | cons entry rest ih =>
    obtain ⟨key, value⟩ := entry
    unfold insert
    split
    · simp [get?]
    · split
      · simp [get?]
      · next h => simp [get?, h, ih]

theorem get?_insert_of_ne {j k : String} (h : j ≠ k) (v : α) (d : Dict α) :
    (d.insert k v).get? j = d.get? j := by
  induction d with
  | nil => simp [insert, get?, Ne.symm h]
  | cons entry rest ih =>
    obtain ⟨key, value⟩ := entry
    unfold insert
    split
    · simp [get?, Ne.symm h]
    · split
      · next hk => subst hk; simp [get?, Ne.symm h]
      · simp [get?, ih]

theorem mem_insert {entry : String × α} {k : String} {v : α} {d : Dict α}
    (h : entry ∈ d.insert k v) : entry = (k, v) ∨ entry ∈ d := by
  induction d with
  | nil => exact .inl (List.mem_singleton.1 h)
  | cons head rest ih =>
    obtain ⟨key, value⟩ := head
    unfold insert at h
    split at h
    · exact List.mem_cons.1 h
    · split at h
      · rcases List.mem_cons.1 h with rfl | member
        · exact .inl rfl
        · exact .inr (List.mem_cons_of_mem _ member)
      · rcases List.mem_cons.1 h with rfl | member
        · exact .inr List.mem_cons_self
        · exact (ih member).imp_right (List.mem_cons_of_mem _)

end Dict

end HomeVoice
