import HomeVoice.Json.Parser
import HomeVoice.Proofs.Json.Object

/-!
# Well-formed JSON values

Of the values that can be put together here not all are values of JSON text: there integers are of
64 bits, signed or unsigned, the other numbers are finite, and the fields of an object ascend, so
that no key is there twice. Whatever is read from text is a value of this form.
-/

namespace HomeVoice

namespace Json

/-- A value that JSON text can give. -/
inductive WellFormed : Json → Prop
  | null : WellFormed .null
  | bool (b : Bool) : WellFormed (.bool b)
  | int {n : Int} (inRange : inIntegerRange n = true) : WellFormed (.int n)
  | float {x : Binary64} (finite : x.isFinite = true) : WellFormed (.float x)
  | str (s : String) : WellFormed (.str s)
  | arr {items : List Json} (each : ∀ j ∈ items, WellFormed j) : WellFormed (.arr items)
  | obj {fields : Dict Json} (ascending : Dict.Ascending fields)
      (each : ∀ field ∈ fields, WellFormed field.2) : WellFormed (.obj fields)

end Json

namespace Dict

variable {α : Type}

theorem ascending_insert {d : Dict α} (ascending : Ascending d) (k : String) (v : α) :
    Ascending (d.insert k v) := by
  induction d with
  | nil => exact List.pairwise_singleton _ _
  | cons entry rest ih =>
    obtain ⟨key, value⟩ := entry
    obtain ⟨first, later⟩ := List.pairwise_cons.1 ascending
    unfold insert
    split
    · next before =>
      refine List.pairwise_cons.2 ⟨?_, ascending⟩
      intro entry member
      rcases List.mem_cons.1 member with rfl | member
      · exact before
      · exact String.lt_trans before (first entry member)
    · next notBefore =>
      split
      · next same => exact List.pairwise_cons.2 ⟨same ▸ first, later⟩
      · next different =>
        refine List.pairwise_cons.2 ⟨?_, ih later⟩
        intro entry member
        rcases mem_insert member with rfl | member
        · rcases Std.lt_trichotomy key k with less | same | greater
          · exact less
          · exact absurd same different
          · exact absurd greater notBefore
        · exact first entry member

theorem get?_eq_none_iff {d : Dict α} {k : String} : d.get? k = none ↔ ∀ entry ∈ d, entry.1 ≠ k := by
  induction d with
  | nil => simp [get?]
  | cons entry rest ih =>
    obtain ⟨key, value⟩ := entry
    by_cases found : key = k
    · simp [get?, found]
    · simp [get?, found, ih]

/-- A dictionary without a key twice reads the same from both ends. -/
theorem get?_reverse {d : Dict α} (ascending : Ascending d) (k : String) :
    Dict.get? d.reverse k = d.get? k := by
  induction d with
  | nil => rfl
  | cons entry rest ih =>
    obtain ⟨key, value⟩ := entry
    obtain ⟨first, later⟩ := List.pairwise_cons.1 ascending
    rw [List.reverse_cons, get?_append, ih later]
    by_cases found : key = k
    · subst found
      have absent : Dict.get? rest key = none := by
        rw [get?_eq_none_iff]
        intro entry member same
        exact String.lt_irrefl key (same ▸ first entry member)
      simp [get?, absent]
    · simp [get?, found]

end Dict

namespace Json

/-! ## What is read from text -/

/-- A token whose value, if it has one, is well formed. -/
def Token.WellFormed : Token → Prop
  | .scalar value => value.WellFormed
  | _ => True

/-- An open container with nothing in it but what is well formed. -/
def Frame.WellFormed : Frame → Prop
  | .array items => ∀ j ∈ items, j.WellFormed
  | .object fields | .member fields _ =>
    Dict.Ascending fields ∧ ∀ field ∈ fields, field.2.WellFormed

/-- A state in which nothing has been read but what is well formed. -/
structure ReadState.WellFormed (s : ReadState) : Prop where
  frames : ∀ frame ∈ s.stack, frame.WellFormed
  result : ∀ v, s.expecting = .nothing v → v.WellFormed

theorem wellFormed_numberValue? {negative : Bool} {whole fraction : List Char}
    {exponent : Option Int} {v : Json} (read : numberValue? negative whole fraction exponent = some v) :
    v.WellFormed := by
  unfold numberValue? at read
  simp only at read
  generalize (if negative = true then -((Text.digitsValue 0 whole : Nat) : Int) else _) = signed at read
  split at read
  · next integer =>
    cases read
    simp only [Bool.and_eq_true] at integer
    exact .int integer.1.2
  · split at read
    · next finite =>
      cases read
      exact .float finite
    · cases read

theorem wellFormed_scanNumber {cs rest : List Char} {v : Json}
    (read : scanNumber cs = some (v, rest)) : v.WellFormed := by
  unfold scanNumber at read
  simp only [bind, Option.bind_eq_some_iff] at read
  obtain ⟨_, -, _, -, _, -, value, valued, given⟩ := read
  cases given
  exact wellFormed_numberValue? valued

theorem wellFormed_scanToken {cs rest : List Char} {token : Token}
    (read : scanToken cs = some (token, rest)) : token.WellFormed := by
  unfold scanToken at read
  split at read
  case h_7 =>
    obtain ⟨_, -, given⟩ := Option.map_eq_some_iff.1 read
    cases given
    exact .str _
  case h_11 =>
    obtain ⟨⟨value, after⟩, scanned, given⟩ := Option.map_eq_some_iff.1 read
    cases given
    exact wellFormed_scanNumber scanned
  all_goals
    cases read
    constructor

theorem wellFormed_tokensFrom {fuel : Nat} {acc tokens : List Token} {cs : List Char}
    (before : ∀ token ∈ acc, token.WellFormed) (read : tokensFrom fuel acc cs = some tokens) :
    ∀ token ∈ tokens, token.WellFormed := by
  fun_induction tokensFrom fuel acc cs with
  | case1 acc =>
    cases read
    simpa using before
  | case2 => cases read
  | case3 acc cs fuel _ token rest scanned ih =>
    refine ih ?_ read
    intro token' member
    rcases List.mem_cons.1 member with rfl | member
    · exact wellFormed_scanToken scanned
    · exact before token' member
  | case4 => cases read

theorem ReadState.wellFormed_complete {v : Json} (value : v.WellFormed) {stack : List Frame}
    (frames : ∀ frame ∈ stack, frame.WellFormed) : (ReadState.complete v stack).WellFormed := by
  unfold complete
  split
  · next items rest =>
    obtain ⟨items_wf, rest_wf⟩ := List.forall_mem_cons.1 frames
    refine ⟨List.forall_mem_cons.2 ⟨?_, rest_wf⟩, nofun⟩
    exact List.forall_mem_cons.2 ⟨value, items_wf⟩
  · next fields key rest =>
    obtain ⟨⟨ascending, each⟩, rest_wf⟩ := List.forall_mem_cons.1 frames
    refine ⟨List.forall_mem_cons.2 ⟨⟨Dict.ascending_insert ascending key v, ?_⟩, rest_wf⟩, nofun⟩
    intro field member
    rcases Dict.mem_insert member with rfl | member
    · exact value
    · exact each field member
  · refine ⟨frames, ?_⟩
    rintro _ ⟨⟩
    exact value

/-- What one token makes of a state: a container is opened, goes on or is complete. -/
theorem ReadState.WellFormed.next {depth : Nat} {s s' : ReadState} {token : Token}
    (before : s.WellFormed) (read : token.WellFormed) (next : s.next? depth token = some s') :
    s'.WellFormed := by
  obtain ⟨expecting, stack⟩ := s
  have frames : ∀ frame ∈ stack, frame.WellFormed := before.frames
  unfold next? at next
  dsimp only at next
  split at next
  case h_1 | h_2 =>
    cases next
    exact wellFormed_complete read frames
  case h_3 | h_4 =>
    split at next <;> cases next
    exact ⟨List.forall_mem_cons.2 ⟨nofun, frames⟩, nofun⟩
  case h_5 | h_6 =>
    split at next <;> cases next
    exact ⟨List.forall_mem_cons.2 ⟨⟨.nil, nofun⟩, frames⟩, nofun⟩
  case h_7 | h_8 =>
    cases next
    obtain ⟨items, rest⟩ := List.forall_mem_cons.1 frames
    exact wellFormed_complete (.arr fun j member => items j (List.mem_reverse.1 member)) rest
  case h_9 | h_10 =>
    cases next
    obtain ⟨⟨ascending, each⟩, rest⟩ := List.forall_mem_cons.1 frames
    exact wellFormed_complete (.obj ascending each) rest
  case h_11 | h_12 =>
    cases next
    obtain ⟨object, rest⟩ := List.forall_mem_cons.1 frames
    exact ⟨List.forall_mem_cons.2 ⟨object, rest⟩, nofun⟩
  case h_13 | h_14 | h_15 =>
    cases next
    exact ⟨frames, nofun⟩
  case h_16 => cases next

/-- What a list of tokens makes of a state. -/
theorem ReadState.WellFormed.nextAll {depth : Nat} {s s' : ReadState} {tokens : List Token}
    (before : s.WellFormed) (read : ∀ token ∈ tokens, token.WellFormed)
    (next : tokens.foldlM (ReadState.next? depth) s = some s') : s'.WellFormed := by
  induction tokens generalizing s with
  | nil =>
    cases next
    exact before
  | cons token rest ih =>
    obtain ⟨first, later⟩ := List.forall_mem_cons.1 read
    rw [List.foldlM_cons] at next
    obtain ⟨s₁, step, next⟩ := Option.bind_eq_some_iff.1 next
    exact ih (before.next first step) later next

/-- Whatever is read from text is well formed. -/
theorem wellFormed_of_parse? {depth : Nat} {text : String} {v : Json}
    (read : parse? depth text = some v) : v.WellFormed := by
  obtain ⟨tokens, cut, given⟩ := Option.bind_eq_some_iff.1 read
  obtain ⟨last, reached, given⟩ := Option.bind_eq_some_iff.1 given
  have start : (ReadState.mk .value []).WellFormed := ⟨nofun, nofun⟩
  have none : ∀ token ∈ ([] : List Token), token.WellFormed := fun _ => (nomatch ·)
  have done := start.nextAll (wellFormed_tokensFrom none cut) reached
  split at given
  · next result expecting =>
    cases given
    exact done.result _ expecting
  · cases given

end Json

end HomeVoice
