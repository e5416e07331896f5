import HomeVoice.Proofs.Control.Decided
import HomeVoice.Proofs.Entity.Id
import HomeVoice.Proofs.Text.LetterCase
import Mathlib.Data.List.Infix
import Mathlib.Data.List.Nodup

/-!
# Sources by name

An input is asked for in words, and the first source whose spoken name stands somewhere in the words
is selected. So a source is selected by its own name unless the name of another one before it is a
part of it; and because only names are spoken with spaces for hyphens and underscores, and words are
not, a source that has some is not selected by words that have them too.
-/

namespace HomeVoice.Control

/-- One text stands somewhere in another exactly when it is a block of it. -/
theorem occursIn_iff {part text : List Char} : occursIn part text = true ↔ part <:+: text := by
  induction text with
  | nil =>
    rw [occursIn, List.isEmpty_iff, List.infix_nil]
  | cons c rest ih =>
    rw [occursIn, Bool.or_eq_true, ih, List.isPrefixOf_iff_prefix, List.infix_cons_iff]

/-! ## Spoken names -/

/-- The text has no hyphens and no underscores. -/
def Plain (text : String) : Prop :=
  '-' ∉ text.toList ∧ '_' ∉ text.toList

theorem length_spokenSource (source : String) :
    (spokenSource source).length = (Text.lowercase source).toList.length :=
  List.length_map _

/-- A name is spoken as it is written, in lower case, exactly when it is plain. -/
theorem spokenSource_eq_iff {source : String} :
    spokenSource source = (Text.lowercase source).toList ↔ Plain source := by
  unfold spokenSource Plain
  rw [← Text.mem_lowercase_iff Text.caseless_hyphen,
    ← Text.mem_lowercase_iff Text.caseless_underscore]
  generalize (Text.lowercase source).toList = letters
  induction letters with
  | nil => simp
  | cons c rest ih =>
    rw [List.map_cons, List.cons.injEq, ih, List.mem_cons, List.mem_cons]
    by_cases spoken : c = '-' ∨ c = '_'
    · rcases spoken with rfl | rfl <;> simp
    · rw [if_neg (by simpa using spoken)]
      obtain ⟨hyphen, underscore⟩ := not_or.1 spoken
      simp [Ne.symm hyphen, Ne.symm underscore]

/-! ## The first source in the words -/

/-- The first of the sources whose spoken name stands in the words. -/
def FirstIn (sources : List String) (words : List Char) (chosen : String) : Prop :=
  ∃ before after, sources = before ++ chosen :: after ∧ spokenSource chosen <:+: words ∧
    ∀ t ∈ before, ¬spokenSource t <:+: words

variable {sources before after : List String} {source chosen requested : String}
  {words : List Char}

theorem find?_occursIn_eq_some_iff :
    sources.find? (fun t => occursIn (spokenSource t) words) = some chosen ↔
      FirstIn sources words chosen := by
  rw [List.find?_eq_some_iff_append, occursIn_iff]
  constructor
  · rintro ⟨hit, before, after, split, missed⟩
    refine ⟨before, after, split, hit, fun t member found => ?_⟩
    simpa [occursIn_iff.2 found] using missed t member
  · rintro ⟨before, after, split, hit, missed⟩
    refine ⟨hit, before, after, split, fun t member => ?_⟩
    simpa [← occursIn_iff] using missed t member

/-- Some source is the first one when any is in the words. -/
theorem exists_firstIn (member : source ∈ sources) (hit : spokenSource source <:+: words) :
    ∃ chosen, FirstIn sources words chosen := by
  have found : (sources.find? (fun t => occursIn (spokenSource t) words)).isSome :=
    List.find?_isSome.2 ⟨source, member, occursIn_iff.2 hit⟩
  obtain ⟨chosen, found⟩ := Option.isSome_iff_exists.1 found
  exact ⟨chosen, find?_occursIn_eq_some_iff.1 found⟩

theorem FirstIn.unique (first : FirstIn sources words chosen)
    (first' : FirstIn sources words source) : chosen = source :=
  Option.some.inj ((find?_occursIn_eq_some_iff.2 first).symm.trans
    (find?_occursIn_eq_some_iff.2 first'))

/-- Of distinct sources one is the first one exactly when no name before it is in the words. -/
theorem firstIn_append_cons_iff (distinct : (before ++ source :: after).Nodup) :
    FirstIn (before ++ source :: after) words source ↔
      spokenSource source <:+: words ∧ ∀ t ∈ before, ¬spokenSource t <:+: words := by
  constructor
  · rintro ⟨before', after', split, hit, missed⟩
    have alone := (List.nodup_cons.1 (List.nodup_middle.1 distinct)).1
    obtain ⟨here, there⟩ := not_or.1 (mt List.mem_append.2 alone)
    obtain ⟨rfl, -⟩ := (List.append_cons_inj_of_notMem here there).1 split
    exact ⟨hit, missed⟩
  · rintro ⟨hit, missed⟩
    exact ⟨before, after, rfl, hit, missed⟩

/-! ## What is selected -/

/-- The call that selects a source. -/
def sourceCall (s : Situation) (source : String) : ServiceCall :=
  (s.call "select_source").withData Key.source (.str source)

/-- The directive succeeds and selects a source. -/
def Selects (s : Situation) (source : String) : Prop :=
  ∃ o, selectInput s = .ok o ∧ o.call = some (sourceCall s source)

variable {s : Situation}

theorem sourceCall_injective (same : sourceCall s source = sourceCall s requested) :
    source = requested := by
  have data := congrArg ServiceCall.data same
  simpa [sourceCall, ServiceCall.withData, Situation.call, ServiceCall.own, ServiceCall.inDomain,
    Dict.insert] using data

section Decision

variable (listed : s.entity.attributes.texts? Key.sourceList = some sources)
  (asked : s.payload.requireText "input" = .ok requested)

include listed asked

/-- The first source that stands in the words decides. -/
theorem selectInput_eq :
    selectInput s = match chooseSource? sources requested with
      | some source => .ok (.respond (sourceCall s source))
      | none => .error (.unknownInput requested) := by
  unfold selectInput
  simp only [asked, listed]
  rfl

/-- What is selected is the first of the sources that the player lists. -/
theorem selects_iff :
    Selects s source ↔ FirstIn sources (Text.lowercase requested).toList source := by
  rw [← find?_occursIn_eq_some_iff, Selects, selectInput_eq listed asked]
  change _ ↔ chooseSource? sources requested = some source
  cases chooseSource? sources requested with
  | none => simp
  | some chosen =>
    constructor
    · rintro ⟨o, decided, called⟩
      cases decided
      exact congrArg some (sourceCall_injective (Option.some.inj called))
    · rintro ⟨⟩
      exact ⟨_, rfl, rfl⟩

/-- Words without the name of any source are refused. -/
theorem selectInput_eq_error
    (missed : ∀ t ∈ sources, ¬spokenSource t <:+: (Text.lowercase requested).toList) :
    selectInput s = .error (.unknownInput requested) := by
  have absent : chooseSource? sources requested = none := by
    rw [chooseSource?, List.find?_eq_none]
    simpa only [occursIn_iff] using missed
  rw [selectInput_eq listed asked, absent]

end Decision

section Named

variable (listed : s.entity.attributes.texts? Key.sourceList = some (before ++ source :: after))
  (distinct : (before ++ source :: after).Nodup)
  (asked : s.payload.requireText "input" = .ok requested)

include listed distinct asked

/-- By its name as it is spoken a source is selected, or one before it whose name is in there. -/
theorem exists_selects_of_spoken
    (spoken : (Text.lowercase requested).toList = spokenSource source) :
    ∃ chosen, Selects s chosen ∧
      FirstIn (before ++ source :: after) (spokenSource source) chosen ∧
      (chosen = source ↔ ∀ t ∈ before, ¬spokenSource t <:+: spokenSource source) := by
  have self : spokenSource source <:+: spokenSource source := List.infix_refl _
  have first : FirstIn (before ++ source :: after) (spokenSource source) source ↔
      spokenSource source <:+: spokenSource source ∧
        ∀ t ∈ before, ¬spokenSource t <:+: spokenSource source :=
    firstIn_append_cons_iff distinct
  have member : source ∈ before ++ source :: after := List.mem_append_cons_self
  obtain ⟨chosen, found⟩ := exists_firstIn member self
  refine ⟨chosen, (selects_iff listed asked).2 (spoken ▸ found), found, ?_⟩
  constructor
  · rintro rfl
    exact (first.1 found).2
  · intro missed
    exact found.unique (first.2 ⟨self, missed⟩)

/-- By its own letters, in any case, a source is selected only if it is plain. -/
theorem selects_iff_of_lowercase_eq
    (letters : Text.lowercase requested = Text.lowercase source) :
    Selects s source ↔
      Plain source ∧ ∀ t ∈ before, ¬spokenSource t <:+: spokenSource source := by
  rw [selects_iff listed asked, letters, firstIn_append_cons_iff distinct]
  constructor
  · rintro ⟨hit, missed⟩
    -- the name is as long as its letters, so it is in them only if it is all of them
    have whole : spokenSource source = (Text.lowercase source).toList :=
      hit.eq_of_length (length_spokenSource source)
    exact ⟨spokenSource_eq_iff.1 whole, whole ▸ missed⟩
  · rintro ⟨plain, missed⟩
    rw [← spokenSource_eq_iff.2 plain]
    exact ⟨List.infix_refl _, missed⟩

end Named

theorem sourceCall_of_player (player : s.entity.domain = .mediaPlayer) :
    sourceCall s source =
      ⟨"media_player", "select_source", s.entity.id, [(Key.source, .str source)]⟩ := by
  have domain : s.entity.id.domainName = "media_player" := by
    rw [EntityId.domainName_eq]
    exact congrArg Domain.name player
  simp only [sourceCall, Situation.call, ServiceCall.own, ServiceCall.inDomain, domain]
  rfl

end HomeVoice.Control
