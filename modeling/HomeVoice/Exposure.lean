import HomeVoice.Entity.Id

/-!
# Exposure

Which entities the assistant may see and control, decided by lists of domains and of entities that
are included or excluded. The lists are read as sets.
-/

namespace HomeVoice

/-- The lists that decide what is exposed. -/
structure Exposure where
  includeDomains : List String
  includeEntities : List String
  excludeDomains : List String
  excludeEntities : List String
  deriving DecidableEq

namespace Exposure

/-- Everything is exposed. -/
def all : Exposure := ⟨[], [], [], []⟩

/-- Whether an entity is exposed. Without any rule it is. With includes only, it or its domain must
be included; with excludes only, neither may be excluded. With both, an included domain exposes
what is not excluded by itself; without included domains but with excluded ones, an entity is
exposed unless it is excluded or its domain is and it is not included; and otherwise only included
entities are. -/
def exposes (x : Exposure) (id : EntityId) : Bool :=
  let included := x.includeEntities.contains id.text
  let excluded := x.excludeEntities.contains id.text
  let domainIncluded := x.includeDomains.contains id.domainName
  let domainExcluded := x.excludeDomains.contains id.domainName
  let hasIncludes := !x.includeDomains.isEmpty || !x.includeEntities.isEmpty
  let hasExcludes := !x.excludeDomains.isEmpty || !x.excludeEntities.isEmpty
  match hasIncludes, hasExcludes with
  | false, false => true
  | true, false => included || domainIncluded
  | false, true => !excluded && !domainExcluded
  | true, true =>
    if !x.includeDomains.isEmpty then included || (domainIncluded && !excluded)
    else if !x.excludeDomains.isEmpty then !excluded && (!domainExcluded || included)
    else included

/-- The lists as JSON. -/
def toJson (x : Exposure) : Json :=
  .object [
    ("include_domains", .ofStrings x.includeDomains),
    ("include_entities", .ofStrings x.includeEntities),
    ("exclude_domains", .ofStrings x.excludeDomains),
    ("exclude_entities", .ofStrings x.excludeEntities)]

/-- The lists in a data format; one that is missing is empty. -/
def decode (format : DataFormat) : Decoder Exposure :=
  let texts := Decoder.list Decoder.string
  Record.decodeIn format "Exposure"
    (Exposure.mk <$> .defaulted "include_domains" texts []
      <*> .defaulted "include_entities" texts []
      <*> .defaulted "exclude_domains" texts []
      <*> .defaulted "exclude_entities" texts [])

end Exposure

end HomeVoice
