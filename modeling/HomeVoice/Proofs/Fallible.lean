/-!
# Computations that can fail

A computation that can fail gives a result only when each of its parts does, and what it fails of
is what one of its parts fails of.
-/

namespace HomeVoice

variable {ε ε' α β : Type}

theorem bind_eq_ok {x : Except ε α} {f : α → Except ε β} {b : β} :
    x.bind f = .ok b ↔ ∃ a, x = .ok a ∧ f a = .ok b := by
  cases x <;> simp [Except.bind]

theorem bind_eq_error {x : Except ε α} {f : α → Except ε β} {e : ε} :
    x.bind f = .error e ↔ x = .error e ∨ ∃ a, x = .ok a ∧ f a = .error e := by
  cases x <;> simp [Except.bind]

theorem map_eq_ok {x : Except ε α} {f : α → β} {b : β} :
    x.map f = .ok b ↔ ∃ a, x = .ok a ∧ f a = b := by
  cases x <;> simp [Except.map]

@[simp] theorem mapError_ok (f : ε → ε') (a : α) :
    (.ok a : Except ε α).mapError f = .ok a :=
  rfl

@[simp] theorem mapError_error (f : ε → ε') (e : ε) :
    (.error e : Except ε α).mapError f = .error (f e) :=
  rfl

theorem mapError_eq_ok {x : Except ε α} {f : ε → ε'} {a : α} :
    x.mapError f = .ok a ↔ x = .ok a := by
  cases x <;> simp

theorem mapError_eq_error {x : Except ε α} {f : ε → ε'} {e' : ε'} :
    x.mapError f = .error e' ↔ ∃ e, x = .error e ∧ f e = e' := by
  cases x <;> simp

theorem eq_ok_of_toOption {x : Except ε α} {a : α} (h : x.toOption = some a) : x = .ok a := by
  cases x with
  | error e => cases h
  | ok b => exact congrArg Except.ok (Option.some.inj h)

/-! ## Computations with the same images -/

variable {x y : Except ε α} {f : ε → ε'} {g : α → β}

theorem cases_of_map_eq (same : x.map g = y.map g) :
    (∃ e, x = .error e ∧ y = .error e) ∨ ∃ a b, x = .ok a ∧ y = .ok b ∧ g a = g b := by
  cases x with
  | error e =>
    cases y with
    | error e' => exact .inl ⟨e, rfl, congrArg Except.error (Except.error.inj same).symm⟩
    | ok b => cases same
  | ok a =>
    cases y with
    | error e' => cases same
    | ok b => exact .inr ⟨a, b, rfl, rfl, Except.ok.inj same⟩

theorem cases_of_mapError_eq (same : x.mapError f = y.mapError f) :
    (∃ e e', x = .error e ∧ y = .error e' ∧ f e = f e') ∨ ∃ a, x = .ok a ∧ y = .ok a := by
  cases x with
  | error e =>
    cases y with
    | error e' => exact .inl ⟨e, e', rfl, rfl, Except.error.inj same⟩
    | ok b => cases same
  | ok a =>
    cases y with
    | error e' => cases same
    | ok b => exact .inr ⟨a, rfl, congrArg Except.ok (Except.ok.inj same).symm⟩

/-- Computations that give the same or nothing give the same, or both fail. -/
theorem cases_of_toOption_eq {y : Except ε' α} (same : x.toOption = y.toOption) :
    (∃ e e', x = .error e ∧ y = .error e') ∨ ∃ a, x = .ok a ∧ y = .ok a := by
  cases x with
  | error e =>
    cases y with
    | error e' => exact .inl ⟨e, e', rfl, rfl⟩
    | ok b => cases same
  | ok a => exact .inr ⟨a, rfl, eq_ok_of_toOption same.symm⟩

/-! ## Sorts of failures -/

/-- Whether everything that a computation can fail of is of one sort. -/
def FailsWith (sort : ε → Prop) (x : Except ε α) : Prop :=
  ∀ e, x = .error e → sort e

namespace FailsWith

variable {sort : ε → Prop}

theorem ok (a : α) : FailsWith sort (.ok a : Except ε α) := by
  intro e h
  cases h

theorem error {e : ε} (h : sort e) : FailsWith sort (.error e : Except ε α) := by
  intro e' h'
  cases h'
  exact h

theorem map {x : Except ε α} (h : FailsWith sort x) (f : α → β) : FailsWith sort (x.map f) := by
  intro e he
  cases x with
  | error _ => cases he; exact h _ rfl
  | ok a => cases he

theorem bind_of_ok {x : Except ε α} {f : α → Except ε β} (h : FailsWith sort x)
    (hf : ∀ a, x = .ok a → FailsWith sort (f a)) : FailsWith sort (x.bind f) := by
  intro e he
  cases x with
  | error _ => cases he; exact h _ rfl
  | ok a => exact hf a rfl e he

theorem bind {x : Except ε α} {f : α → Except ε β} (h : FailsWith sort x)
    (hf : ∀ a, FailsWith sort (f a)) : FailsWith sort (x.bind f) :=
  h.bind_of_ok fun a _ => hf a

theorem mono {sort' : ε → Prop} {x : Except ε α} (h : FailsWith sort x)
    (weaker : ∀ e, sort e → sort' e) : FailsWith sort' x :=
  fun e he => weaker e (h e he)

theorem mapError {x : Except ε' α} {f : ε' → ε} (h : ∀ e, sort (f e)) :
    FailsWith sort (x.mapError f) := by
  intro e he
  cases x with
  | error _ => cases he; exact h _
  | ok a => cases he

end FailsWith

end HomeVoice
