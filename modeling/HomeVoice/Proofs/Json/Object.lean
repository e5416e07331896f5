import HomeVoice.Json.Basic

/-!
# Objects

What an object that is put together from entries holds, and what it holds deeper inside. Two objects
are the same when they have the same values under the same keys; the order of the fields says
nothing.
-/

namespace HomeVoice

namespace Dict

variable {α : Type}

theorem get?_append (d d' : Dict α) (k : String) :
    Dict.get? (d ++ d') k = (d.get? k).or (d'.get? k) := by
  induction d with
  | nil => rfl
  | cons entry rest ih =>
    obtain ⟨key, value⟩ := entry
    by_cases found : key = k
    · simp [get?, found]
    · simpa [get?, found] using ih

/-- Of the entries of a key the last one counts. -/
theorem get?_ofEntries (entries : List (String × α)) (k : String) :
    (ofEntries entries).get? k = Dict.get? entries.reverse k := by
  have collected (d : Dict α) :
      (entries.foldl (fun d (entry : String × α) => d.insert entry.1 entry.2) d).get? k =
        (Dict.get? entries.reverse k).or (d.get? k) := by
    induction entries generalizing d with
    | nil => rfl
    | cons entry rest ih =>
      obtain ⟨key, value⟩ := entry
      rw [List.foldl_cons, ih, List.reverse_cons, get?_append, Option.or_assoc]
      congr 1
      by_cases found : key = k
      · subst found
        simp [get?, get?_insert_self]
      · simp [get?, found, get?_insert_of_ne (Ne.symm found)]
  exact (collected []).trans (Option.or_none)

theorem get?_erase_self (k : String) (d : Dict α) : Dict.get? (erase k d) k = none := by
  induction d with
  | nil => rfl
  | cons entry rest ih => grind [Dict.get?, Dict.erase]

theorem get?_erase_of_ne {j k : String} (different : j ≠ k) (d : Dict α) :
    Dict.get? (erase k d) j = d.get? j := by
  induction d with
  | nil => rfl
  | cons entry rest ih => grind [Dict.get?, Dict.erase]

end Dict

namespace Json

theorem field?_object (fields : List (String × Json)) (key : String) :
    (object fields).field? key = Dict.get? fields.reverse key :=
  Dict.get?_ofEntries fields key

/-- What stands in an object under a path of keys. -/
def at? (j : Json) : List String → Option Json
  | [] => some j
  | key :: path => (j.field? key).bind fun field => field.at? path

/-- The same object: the same value under every key. -/
def SameObject (j j' : Json) : Prop :=
  ∃ fields fields', j = .obj fields ∧ j' = .obj fields' ∧
    ∀ key, Dict.get? fields key = Dict.get? fields' key

end Json

end HomeVoice
