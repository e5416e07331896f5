import HomeVoice.Text.Number

/-!
# The grammar of numbers in text

Which texts are integers and which are numbers, said without reading them. `readInteger?` reads the
integers and no other text, and `readNumber?` reads the numbers and no other text. Every integer is a
number; numbers also have a point, an exponent or a name.
-/

namespace HomeVoice.Text

/-! ## The grammar -/

/-- Nothing but digits. -/
def AllDigits (cs : List Char) : Prop :=
  ∀ c ∈ cs, isDigit c = true

/-- A text of some form, with a sign before it or none. -/
inductive Signed (form : List Char → Prop) : List Char → Prop
  | bare {cs : List Char} (body : form cs) : Signed form cs
  | plus {cs : List Char} (body : form cs) : Signed form ('+' :: cs)
  | minus {cs : List Char} (body : form cs) : Signed form ('-' :: cs)

/-- One digit or more. -/
def IsDigits (cs : List Char) : Prop :=
  cs ≠ [] ∧ AllDigits cs

/-- An integer, of any size. -/
abbrev IsInteger : List Char → Prop :=
  Signed IsDigits

/-- An exponent, or nothing in its place. -/
inductive IsExponent : List Char → Prop
  | absent : IsExponent []
  | small {cs : List Char} (integer : IsInteger cs) : IsExponent ('e' :: cs)
  | capital {cs : List Char} (integer : IsInteger cs) : IsExponent ('E' :: cs)

/-- A numeral without a sign. A point has digits on one of its sides at least. -/
inductive IsDecimal : List Char → Prop
  | whole {digits exponent : List Char} (some : IsDigits digits) (after : IsExponent exponent) :
      IsDecimal (digits ++ exponent)
  | point {digits fraction exponent : List Char} (before : AllDigits digits)
      (behind : AllDigits fraction) (some : digits ≠ [] ∨ fraction ≠ [])
      (after : IsExponent exponent) : IsDecimal (digits ++ '.' :: (fraction ++ exponent))

/-- The name of an infinity or of NaN, in any letter case. -/
def IsName (cs : List Char) : Prop :=
  cs.map Char.toLower ∈ ["inf".toList, "infinity".toList, "nan".toList]

/-- A number. -/
abbrev IsNumber : List Char → Prop :=
  Signed fun cs => IsName cs ∨ IsDecimal cs

/-! ## Signs -/

/-- The text does not begin with a sign. -/
def Unsigned (cs : List Char) : Prop :=
  ∀ c ∈ cs.head?, c ≠ '+' ∧ c ≠ '-'

variable {cs digits rest : List Char} {form : List Char → Prop}

/-- What has no sign of its own is what is left when the sign is split off. -/
theorem signed_iff (unsigned : ∀ cs, form cs → Unsigned cs) :
    Signed form cs ↔ form (splitSign cs).2 := by
  constructor
  · rintro (⟨body⟩ | ⟨body⟩ | ⟨body⟩)
    · cases cs with
      | nil => exact body
      | cons c rest =>
        obtain ⟨notPlus, notMinus⟩ := unsigned _ body c rfl
        rw [splitSign.eq_3 _ (by simp [notMinus]) (by simp [notPlus])]
        exact body
    · exact body
    · exact body
  · intro body
    unfold splitSign at body
    split at body
    · exact .minus body
    · exact .plus body
    · exact .bare body

theorem Signed.mono {form' : List Char → Prop} (signed : Signed form cs)
    (weaker : ∀ cs, form cs → form' cs) : Signed form' cs := by
  cases signed with
  | bare body => exact .bare (weaker _ body)
  | plus body => exact .plus (weaker _ body)
  | minus body => exact .minus (weaker _ body)

theorem unsigned_of_isDigit {c : Char} (digit : isDigit c = true) : c ≠ '+' ∧ c ≠ '-' := by
  constructor
  · rintro rfl
    exact absurd digit (by decide)
  · rintro rfl
    exact absurd digit (by decide)

theorem IsDigits.unsigned (h : IsDigits cs) : Unsigned cs :=
  fun _ first => unsigned_of_isDigit (h.2 _ (List.mem_of_mem_head? first))

theorem IsDecimal.unsigned (h : IsDecimal cs) : Unsigned cs := by
  cases h with
  | @whole digits exponent some after =>
    intro c first
    cases digits with
    | nil => exact absurd rfl some.1
    | cons d rest => exact some.unsigned c first
  | @point digits fraction exponent before behind some after =>
    intro c first
    cases digits with
    | nil =>
      obtain rfl : '.' = c := Option.some.inj first
      decide
    | cons d rest =>
      obtain rfl : d = c := Option.some.inj first
      exact unsigned_of_isDigit (before d List.mem_cons_self)

theorem IsName.unsigned (h : IsName cs) : Unsigned cs := by
  intro c first
  cases cs with
  | nil => cases first
  | cons d rest =>
    obtain rfl : d = c := Option.some.inj first
    constructor
    · rintro rfl
      simp [IsName] at h
    · rintro rfl
      simp [IsName] at h

/-! ## Integers -/

theorem readDigits_iff : (digits.isEmpty || !digits.all isDigit) = false ↔ IsDigits digits := by
  simp [IsDigits, AllDigits]

theorem isSome_readInteger?_iff : (readInteger? cs).isSome = true ↔ IsInteger cs := by
  rw [IsInteger, signed_iff fun _ => IsDigits.unsigned, ← readDigits_iff, readInteger?]
  simp only
  cases (splitSign cs).2.isEmpty || !(splitSign cs).2.all isDigit <;> simp

/-! ## Natural numbers -/

/-- A numeral of a natural number: its digits, with a plus sign before them or none. -/
inductive IsNumeral : List Char → Nat → Prop
  | bare {digits : List Char} (some : IsDigits digits) : IsNumeral digits (digitsValue 0 digits)
  | plus {digits : List Char} (some : IsDigits digits) :
      IsNumeral ('+' :: digits) (digitsValue 0 digits)

theorem digits_eq_some_iff {n : Nat} :
    (if digits.isEmpty || !digits.all isDigit then none else some (digitsValue 0 digits)) = some n ↔
      IsDigits digits ∧ digitsValue 0 digits = n := by
  rw [← readDigits_iff]
  cases digits.isEmpty || !digits.all isDigit <;> simp

theorem readNatural?_eq_some_iff {n : Nat} : readNatural? cs = some n ↔ IsNumeral cs n := by
  unfold readNatural?
  constructor
  · intro read
    split at read
    · obtain ⟨some, rfl⟩ := digits_eq_some_iff.1 read
      exact .plus some
    · obtain ⟨some, rfl⟩ := digits_eq_some_iff.1 read
      exact .bare some
  · rintro (⟨some⟩ | ⟨some⟩)
    · split
      · next signed rest => exact absurd rfl (some.unsigned '+' rfl).1
      · exact digits_eq_some_iff.2 ⟨some, rfl⟩
    · exact digits_eq_some_iff.2 ⟨some, rfl⟩

theorem toList_toString (n : Nat) : (toString n).toList = Nat.toDigits 10 n :=
  Nat.toList_repr

theorem isDigits_toString (n : Nat) : IsDigits (toString n).toList := by
  rw [toList_toString]
  refine ⟨Nat.toDigits_ne_nil, ?_⟩
  intro c member
  have digit := Nat.isDigit_of_mem_toDigits (by decide) (by decide) member
  simp only [Char.isDigit, Bool.and_eq_true, decide_eq_true_eq] at digit
  simp only [isDigit, Bool.and_eq_true, decide_eq_true_eq]
  exact digit

/-- What a number is printed as is a numeral of it. -/
theorem isNumeral_toString (n : Nat) : IsNumeral (toString n).toList n := by
  have value : digitsValue 0 (toString n).toList = n := by
    rw [toList_toString]
    exact Nat.ofDigitChars_toDigits (by decide) (by decide)
  have numeral := IsNumeral.bare (isDigits_toString n)
  rwa [value] at numeral

theorem isSome_readExponent?_iff : (readExponent? cs).isSome = true ↔ IsExponent cs := by
  cases cs with
  | nil => exact iff_of_true rfl .absent
  | cons c rest =>
    rw [readExponent?]
    split
    · next letter =>
      rw [isSome_readInteger?_iff]
      constructor
      · intro integer
        rcases (by simpa using letter : c = 'e' ∨ c = 'E') with rfl | rfl
        · exact .small integer
        · exact .capital integer
      · rintro (_ | ⟨integer⟩ | ⟨integer⟩)
        · exact integer
        · exact integer
    · next other =>
      refine iff_of_false Bool.false_ne_true ?_
      rintro (_ | _ | _)
      · exact other (by decide)
      · exact other (by decide)

/-! ## Numbers -/

/-- The first character, if there is one, is no digit. -/
def StopsDigits (cs : List Char) : Prop :=
  ∀ c ∈ cs.head?, isDigit c = false

theorem IsExponent.stopsDigits (h : IsExponent cs) : StopsDigits cs := by
  intro c first
  cases h with
  | absent => cases first
  | small => obtain rfl := Option.some.inj first; decide
  | capital => obtain rfl := Option.some.inj first; decide

theorem stopsDigits_point (rest : List Char) : StopsDigits ('.' :: rest) := by
  intro c first
  obtain rfl := Option.some.inj first
  decide

/-- Digits are cut off where they stop. -/
theorem span_digits (all : AllDigits digits) (stops : StopsDigits rest) :
    (digits ++ rest).takeWhile isDigit = digits ∧ (digits ++ rest).dropWhile isDigit = rest := by
  rw [List.takeWhile_append_of_pos all, List.dropWhile_append_of_pos all]
  cases rest with
  | nil => simp
  | cons c rest =>
    have stop : isDigit c = false := stops c rfl
    simp [stop]

theorem allDigits_takeWhile (cs : List Char) : AllDigits (cs.takeWhile isDigit) :=
  fun c member => List.all_eq_true.1 List.all_takeWhile c member

theorem stopsDigits_dropWhile (cs : List Char) : StopsDigits (cs.dropWhile isDigit) := by
  intro c first
  have stop := List.head?_dropWhile_not isDigit cs
  rw [Option.mem_def.1 first] at stop
  exact stop

theorem isSome_readDecimal?_whole (all : AllDigits digits) (stops : StopsDigits rest)
    (noPoint : rest.head? ≠ some '.') :
    (readDecimal? (digits ++ rest)).isSome = true ↔ digits ≠ [] ∧ IsExponent rest := by
  obtain ⟨taken, dropped⟩ := span_digits all stops
  rw [readDecimal?, taken, dropped, ← isSome_readExponent?_iff]
  split
  next whole fraction after cut =>
  split at cut
  · exact absurd rfl noPoint
  · cases cut
    cases digits with
    | nil => simp
    | cons c digits => cases readExponent? rest <;> simp

theorem isSome_readDecimal?_point {fraction : List Char} (before : AllDigits digits)
    (behind : AllDigits fraction) (stops : StopsDigits rest) :
    (readDecimal? (digits ++ '.' :: (fraction ++ rest))).isSome = true ↔
      (digits ≠ [] ∨ fraction ≠ []) ∧ IsExponent rest := by
  obtain ⟨taken, dropped⟩ := span_digits before (stopsDigits_point (fraction ++ rest))
  obtain ⟨takenBehind, droppedBehind⟩ := span_digits behind stops
  rw [readDecimal?, taken, dropped, ← isSome_readExponent?_iff]
  simp only [takenBehind, droppedBehind]
  cases digits <;> cases fraction <;> cases readExponent? rest <;> simp

theorem isSome_readDecimal?_iff : (readDecimal? cs).isSome = true ↔ IsDecimal cs := by
  constructor
  · intro read
    have cut : cs.takeWhile isDigit ++ cs.dropWhile isDigit = cs := List.takeWhile_append_dropWhile
    have before := allDigits_takeWhile cs
    have stops := stopsDigits_dropWhile cs
    generalize cs.takeWhile isDigit = digits, cs.dropWhile isDigit = rest at *
    subst cut
    by_cases point : rest.head? = some '.'
    · obtain ⟨tail, rfl⟩ := List.head?_eq_some_iff.1 point
      have cutBehind : tail.takeWhile isDigit ++ tail.dropWhile isDigit = tail :=
        List.takeWhile_append_dropWhile
      have behind := allDigits_takeWhile tail
      have stopsBehind := stopsDigits_dropWhile tail
      generalize tail.takeWhile isDigit = fraction, tail.dropWhile isDigit = exponent at *
      subst cutBehind
      obtain ⟨some, after⟩ := (isSome_readDecimal?_point before behind stopsBehind).1 read
      exact .point before behind some after
    · obtain ⟨some, after⟩ := (isSome_readDecimal?_whole before stops point).1 read
      exact .whole ⟨some, before⟩ after
  · rintro (⟨some, after⟩ | ⟨before, behind, some, after⟩)
    · refine (isSome_readDecimal?_whole some.2 after.stopsDigits ?_).2 ⟨some.1, after⟩
      cases after <;> simp
    · exact (isSome_readDecimal?_point before behind after.stopsDigits).2 ⟨some, after⟩

theorem isSome_readNumber?_iff : (readNumber? cs).isSome = true ↔ IsNumber cs := by
  have unsigned : ∀ cs, IsName cs ∨ IsDecimal cs → Unsigned cs := by
    rintro cs (name | decimal)
    · exact name.unsigned
    · exact decimal.unsigned
  rw [IsNumber, signed_iff unsigned, ← isSome_readDecimal?_iff, readNumber?]
  simp only [IsName]
  split
  · next infinite =>
    refine iff_of_true rfl (.inl ?_)
    rcases (by simpa using infinite : _ ∨ _) with short | long
    · simp [short]
    · simp [long]
  · next finite =>
    split
    · next nan => exact iff_of_true rfl (.inl (by simp [nan]))
    · next number =>
      rw [Option.isSome_map]
      obtain ⟨short, long⟩ : ¬_ ∧ ¬_ := by simpa using finite
      refine (or_iff_right ?_).symm
      simp [short, long, number]

/-- An integer is a number without a point, an exponent or a name. -/
theorem IsInteger.isNumber (h : IsInteger cs) : IsNumber cs := by
  refine h.mono fun digits some => .inr ?_
  have decimal := IsDecimal.whole some .absent
  rwa [List.append_nil] at decimal

end HomeVoice.Text
