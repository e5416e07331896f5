import HomeVoice.Exposure
import Mathlib.Tactic.ByContra
import Mathlib.Tactic.Tauto

/-!
# Tightening the exposure

Excluding more hides more, with one exception. Where entities are included by name only, all others
are hidden; the first domain to be excluded turns this over, and what is not excluded is then
exposed. The lists are read as sets: their order, and what they repeat, decides nothing.
-/

namespace HomeVoice

namespace Exposure

/-- The same is included as elsewhere, and everything is excluded that is excluded there. -/
structure Tightens (tight loose : Exposure) : Prop where
  includeDomains : ∀ name, name ∈ tight.includeDomains ↔ name ∈ loose.includeDomains
  includeEntities : ∀ text, text ∈ tight.includeEntities ↔ text ∈ loose.includeEntities
  excludeDomains : loose.excludeDomains ⊆ tight.excludeDomains
  excludeEntities : loose.excludeEntities ⊆ tight.excludeEntities

/-- Entities are included by name only, and domains are excluded where none were. -/
structure TurnsOver (tight loose : Exposure) : Prop where
  includeDomains : loose.includeDomains = []
  includeEntities : loose.includeEntities ≠ []
  noneBefore : loose.excludeDomains = []
  someAfter : tight.excludeDomains ≠ []

/-- Each list has the same entries, in any order and repeated or not. -/
structure SameEntries (x y : Exposure) : Prop where
  includeDomains : ∀ name, name ∈ x.includeDomains ↔ name ∈ y.includeDomains
  includeEntities : ∀ text, text ∈ x.includeEntities ↔ text ∈ y.includeEntities
  excludeDomains : ∀ name, name ∈ x.excludeDomains ↔ name ∈ y.excludeDomains
  excludeEntities : ∀ text, text ∈ x.excludeEntities ↔ text ∈ y.excludeEntities

variable {x y tight loose : Exposure} {id : EntityId}

/-- An entity is exposed in one of four ways: with the domains that are included, as one of those
that nothing excludes, by name only, or in spite of its domain. -/
theorem exposes_iff (x : Exposure) (id : EntityId) :
    x.exposes id = true ↔
      if x.includeDomains ≠ [] then
        id.text ∈ x.includeEntities ∨
          id.domainName ∈ x.includeDomains ∧ id.text ∉ x.excludeEntities
      else if x.includeEntities = [] then
        id.text ∉ x.excludeEntities ∧ id.domainName ∉ x.excludeDomains
      else if x.excludeDomains = [] then id.text ∈ x.includeEntities
      else id.text ∉ x.excludeEntities ∧
        (id.domainName ∉ x.excludeDomains ∨ id.text ∈ x.includeEntities) := by
  obtain ⟨domains, entities, domains', entities'⟩ := x
  cases domains with
  | cons d rest =>
    cases domains' <;> cases entities' <;> simp [exposes]
  | nil =>
    cases entities <;> cases domains' <;> cases entities' <;> simp [exposes]

theorem eq_nil_congr {l l' : List String} (same : ∀ s, s ∈ l ↔ s ∈ l') : l = [] ↔ l' = [] := by
  simp only [List.eq_nil_iff_forall_not_mem, same]

/-- Lists with the same entries decide the same. -/
theorem exposes_congr (same : x.SameEntries y) (id : EntityId) : x.exposes id = y.exposes id := by
  rw [Bool.eq_iff_iff, exposes_iff, exposes_iff]
  simp only [ne_eq, eq_nil_congr same.includeDomains, eq_nil_congr same.includeEntities,
    eq_nil_congr same.excludeDomains, same.includeDomains, same.includeEntities,
    same.excludeDomains, same.excludeEntities]

/-! ## More exclusions -/

/-- Unless this turns the lists over, what is exposed by tighter lists is exposed by looser ones. -/
theorem exposes_of_tightens (tightens : tight.Tightens loose) (straight : ¬tight.TurnsOver loose)
    (exposed : tight.exposes id = true) : loose.exposes id = true := by
  rw [exposes_iff] at exposed ⊢
  simp only [ne_eq, eq_nil_congr tightens.includeDomains, eq_nil_congr tightens.includeEntities,
    tightens.includeDomains, tightens.includeEntities] at exposed
  have keptDomain : id.domainName ∉ tight.excludeDomains → id.domainName ∉ loose.excludeDomains :=
    fun kept excluded => kept (tightens.excludeDomains excluded)
  have keptEntity : id.text ∉ tight.excludeEntities → id.text ∉ loose.excludeEntities :=
    fun kept excluded => kept (tightens.excludeEntities excluded)
  by_cases domains : loose.includeDomains = []
  · by_cases entities : loose.includeEntities = []
    · simp only [domains, entities, if_true, not_true, if_false] at exposed ⊢
      exact exposed.imp keptEntity keptDomain
    · by_cases before : loose.excludeDomains = []
      · -- No domain is excluded now either, or the lists would be turned over.
        have after : tight.excludeDomains = [] := by
          by_contra after
          exact straight ⟨domains, entities, before, after⟩
        simpa [domains, entities, before, after] using exposed
      · have after : tight.excludeDomains ≠ [] := fun after =>
          before (List.subset_nil.1 (after ▸ tightens.excludeDomains))
        simp only [domains, entities, before, after, not_true, if_false] at exposed ⊢
        exact exposed.imp keptEntity (Or.imp_left keptDomain)
  · simp only [ne_eq, domains, not_false_iff, if_true] at exposed ⊢
    exact exposed.imp_right (And.imp_right keptEntity)

/-- When the lists are turned over, an entity was exposed before if it is included, and is exposed
after if nothing excludes it or it is included and not excluded by name. -/
theorem TurnsOver.exposes_iff (turned : tight.TurnsOver loose) (tightens : tight.Tightens loose)
    (id : EntityId) :
    (loose.exposes id = true ↔ id.text ∈ loose.includeEntities) ∧
      (tight.exposes id = true ↔ id.text ∉ tight.excludeEntities ∧
        (id.domainName ∉ tight.excludeDomains ∨ id.text ∈ loose.includeEntities)) := by
  rw [Exposure.exposes_iff, Exposure.exposes_iff]
  simp only [ne_eq, eq_nil_congr tightens.includeDomains, eq_nil_congr tightens.includeEntities,
    tightens.includeEntities, turned.includeDomains, turned.includeEntities, turned.noneBefore,
    turned.someAfter, not_true, if_true, if_false, and_self]

/-- What tighter lists expose and looser ones do not. -/
theorem newly_exposed_iff (tightens : tight.Tightens loose) :
    loose.exposes id = false ∧ tight.exposes id = true ↔
      tight.TurnsOver loose ∧ id.text ∉ loose.includeEntities ∧ id.text ∉ tight.excludeEntities ∧
        id.domainName ∉ tight.excludeDomains := by
  by_cases turns : tight.TurnsOver loose
  · obtain ⟨before, after⟩ := turns.exposes_iff tightens id
    rw [← Bool.not_eq_true, before, after]
    tauto
  · constructor
    · rintro ⟨hidden, exposed⟩
      cases hidden.symm.trans (exposes_of_tightens tightens turns exposed)
    · rintro ⟨turned, -⟩
      exact absurd turned turns

/-! ## Names that are on no list -/

/-- The length of some texts together. -/
def totalLength : List String → Nat
  | [] => 0
  | text :: rest => text.length + totalLength rest

theorem length_le_totalLength {text : String} {texts : List String} (member : text ∈ texts) :
    text.length ≤ totalLength texts := by
  induction texts with
  | nil => cases member
  | cons other rest ih =>
    unfold totalLength
    rcases List.mem_cons.1 member with rfl | member
    · omega
    · have short := ih member
      omega

/-- A name that is longer than all of some texts. -/
def longName (texts : List String) : String :=
  .ofList (List.replicate (totalLength texts + 1) 'a')

theorem notMem_of_length_le {texts : List String} {text : String}
    (long : (longName texts).length ≤ text.length) : text ∉ texts := by
  intro member
  have short := length_le_totalLength member
  simp only [longName, String.length_ofList, List.length_replicate] at long
  omega

/-- The id of an entity that some lists do not name, in a domain that others do not name. -/
def unlisted (domains texts : List String) : EntityId where
  domainName := longName domains
  objectName := longName texts
  domainName_ne := by simp [longName]
  dot_not_mem := by simp [longName, List.mem_replicate]
  objectName_ne := by simp [longName]

theorem text_unlisted_notMem (domains texts : List String) :
    (unlisted domains texts).text ∉ texts := by
  apply notMem_of_length_le
  simp only [EntityId.text, unlisted, String.length_append]
  omega

theorem domainName_unlisted_notMem (domains texts : List String) :
    (unlisted domains texts).domainName ∉ domains :=
  notMem_of_length_le (Nat.le_refl _)

/-- When the lists are turned over, there is always an entity that is exposed by it. -/
theorem TurnsOver.exists_newly_exposed (turned : tight.TurnsOver loose)
    (tightens : tight.Tightens loose) :
    ∃ id, loose.exposes id = false ∧ tight.exposes id = true := by
  let texts := loose.includeEntities ++ tight.excludeEntities
  have unnamed := text_unlisted_notMem tight.excludeDomains texts
  rw [List.mem_append, not_or] at unnamed
  exact ⟨unlisted tight.excludeDomains texts, (newly_exposed_iff tightens).2
    ⟨turned, unnamed.1, unnamed.2, domainName_unlisted_notMem _ _⟩⟩

/-! ## Tightening -/

/-- Of two policies with the same includes, the one that excludes more hides whatever the other
hides, unless it is the first to exclude domains where entities are included by name only. Then some
entities are exposed by it that were hidden, and they are those that it neither includes nor
excludes. Policies with the same entries decide the same, whatever the order of their lists and what
is repeated in them. -/
theorem tightening_hides (loose tight : Exposure) :
    (tight.Tightens loose →
      (¬tight.TurnsOver loose → ∀ id, loose.exposes id = false → tight.exposes id = false) ∧
      (tight.TurnsOver loose →
        (∃ id, loose.exposes id = false ∧ tight.exposes id = true) ∧
        ∀ id, loose.exposes id = false ∧ tight.exposes id = true ↔
          id.text ∉ loose.includeEntities ∧ id.text ∉ tight.excludeEntities ∧
            id.domainName ∉ tight.excludeDomains)) ∧
      (loose.SameEntries tight → ∀ id, loose.exposes id = tight.exposes id) := by
  refine ⟨?_, exposes_congr⟩
  intro tightens
  refine ⟨?_, ?_⟩
  · intro straight id hidden
    by_contra exposed
    rw [Bool.not_eq_false] at exposed
    cases hidden.symm.trans (exposes_of_tightens tightens straight exposed)
  · intro turned
    refine ⟨turned.exists_newly_exposed tightens, fun id => ?_⟩
    rw [newly_exposed_iff tightens]
    exact and_iff_right turned

/-- One script is included, then scripts are excluded, then locks as well. The first exclusion
exposes all but scripts, the second nothing more, and to name scripts again decides nothing. -/
theorem tightening_hides_scripts :
    let loose : Exposure := ⟨[], ["script.good_night"], [], []⟩
    let tight : Exposure := ⟨[], ["script.good_night"], ["script"], []⟩
    let tighter : Exposure := ⟨[], ["script.good_night"], ["script", "lock"], []⟩
    let again : Exposure := ⟨[], ["script.good_night"], ["lock", "script", "script"], []⟩
    (tight.Tightens loose ∧ tight.TurnsOver loose ∧
      ∀ id, id.text ≠ "script.good_night" → id.domainName ≠ "script" →
        loose.exposes id = false ∧ tight.exposes id = true) ∧
      (tighter.Tightens tight ∧ ¬tighter.TurnsOver tight ∧
        ∀ id, tight.exposes id = false → tighter.exposes id = false) ∧
      tighter.SameEntries again ∧ ∀ id, tighter.exposes id = again.exposes id := by
  intro loose tight tighter again
  have tightens : tight.Tightens loose := ⟨by simp [tight, loose], by simp [tight, loose],
    List.nil_subset _, List.nil_subset _⟩
  have turned : tight.TurnsOver loose := ⟨rfl, by simp [loose], rfl, by simp [tight]⟩
  have tightens' : tighter.Tightens tight := ⟨by simp [tighter, tight], by simp [tighter, tight],
    by simp [tighter, tight], List.nil_subset _⟩
  have straight : ¬tighter.TurnsOver tight := fun turned => by simpa [tight] using turned.noneBefore
  have same : tighter.SameEntries again := ⟨by simp [tighter, again], by simp [tighter, again],
    by simp [tighter, again, or_comm], by simp [tighter, again]⟩
  refine ⟨⟨tightens, turned, ?_⟩, ⟨tightens', straight, ?_⟩, same, ?_⟩
  · intro id unnamed other
    have newly := ((tightening_hides loose tight).1 tightens).2 turned |>.2 id
    exact newly.2 ⟨by simpa [loose] using unnamed, by simp [tight], by simpa [tight] using other⟩
  · exact ((tightening_hides tight tighter).1 tightens').1 straight
  · exact (tightening_hides tighter again).2 same

end Exposure

end HomeVoice
