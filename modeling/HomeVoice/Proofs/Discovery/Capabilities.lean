import HomeVoice.Proofs.Discovery.Endpoint
import Mathlib.Data.List.Forall2
import Mathlib.Data.List.Nodup

/-!
# What an endpoint declares

An endpoint declares no interface twice, and of the properties of an interface it declares some or
all, each once and in the order of the table. Interfaces are told apart by their namespaces, and a
directive that controls is accepted by the one interface that has its namespace.
-/

namespace HomeVoice

namespace Interface

theorem ofNameSpace?_nameSpace (i : Interface) : ofNameSpace? i.nameSpace = some i := by
  cases i <;> decide +kernel

theorem nameSpace_injective {i j : Interface} (same : i.nameSpace = j.nameSpace) : i = j := by
  have found := ofNameSpace?_nameSpace i
  rw [same, ofNameSpace?_nameSpace] at found
  exact (Option.some.inj found).symm

theorem nodup_properties (i : Interface) : i.spec.properties.Nodup := by
  cases i <;> decide

/-- What an interface accepts has its namespace. -/
theorem nameSpace_of_accepts {i : Interface} {k : DirectiveKind} (accepts : i.accepts k = true) :
    k.nameSpace = i.nameSpace := by
  have listed : ∀ k ∈ i.spec.directives, k.nameSpace = i.nameSpace := by
    cases i <;> decide +kernel
  exact listed k (List.contains_iff_mem.1 accepts)

/-- No directive is accepted by two interfaces. -/
theorem eq_of_accepts {i j : Interface} {k : DirectiveKind} (accepts : i.accepts k = true)
    (accepts' : j.accepts k = true) : i = j :=
  nameSpace_injective ((nameSpace_of_accepts accepts).symm.trans (nameSpace_of_accepts accepts'))

/-- What is reported with every answer cannot be controlled. -/
theorem not_accepts_of_proactive {i : Interface} (proactive : i.spec.proactive = true)
    (k : DirectiveKind) : i.accepts k = false := by
  cases i <;> first | rfl | cases proactive

end Interface

/-- Of two lists, the one whose elements have more images keeps more. -/
theorem filterMap_sublist_filterMap {α β γ : Type} {f : α → Option γ} {g : β → Option γ}
    {l : List α} {l' : List β}
    (more : List.Forall₂ (fun a b => ∀ c, f a = some c → g b = some c) l l') :
    (l.filterMap f).Sublist (l'.filterMap g) := by
  induction more with
  | nil => exact .slnil
  | @cons a b rest rest' kept _ ih =>
    cases image : f a with
    | some c =>
      rw [List.filterMap_cons_some image, List.filterMap_cons_some (kept c image)]
      exact ih.cons_cons c
    | none =>
      rw [List.filterMap_cons_none image]
      exact ih.trans ((List.sublist_cons_self b rest').filterMap g)

/-- What is kept of a list, each element as its image, is a part of all images in their order. -/
theorem filterMap_sublist_map {α β : Type} {f : α → Option β} {g : α → β}
    (kept : ∀ a b, f a = some b → b = g a) (l : List α) : (l.filterMap f).Sublist (l.map g) := by
  rw [← List.filterMap_eq_map]
  refine filterMap_sublist_filterMap (List.forall₂_same.2 ?_)
  intro a _ b image
  exact congrArg some (kept a b image).symm

namespace Entity

variable {e : Entity}

/-- Of the interfaces that come with features, those are declared that are enabled. -/
theorem interfaces_optional_sublist (features : List (Interface × Bool)) :
    ((optional features).map Capability.interface).Sublist (features.map Prod.fst) := by
  rw [optional, List.map_filterMap]
  refine filterMap_sublist_map ?_ features
  rintro ⟨i, enabled⟩ j kept
  cases enabled with
  | false => cases kept
  | true => exact (Option.some.inj kept).symm

/-- No interface is declared twice. -/
theorem nodup_interfaces (e : Entity) : (e.capabilities.map Capability.interface).Nodup := by
  have offered {features : List (Interface × Bool)}
      (distinct : (.power :: features.map Prod.fst).Nodup) :
      ((Capability.full .power :: optional features).map Capability.interface).Nodup :=
    distinct.sublist ((interfaces_optional_sublist features).cons_cons _)
  unfold capabilities
  cases e.domain with
  | light | cover | fan | mediaPlayer => exact offered (by simp)
  | climate => exact (by decide : [Interface.thermostat, .temperatureSensor].Nodup)
  | sensor =>
    simp only
    split
    · exact List.nodup_singleton _
    · exact .nil
  | other => exact .nil
  | _ => exact List.nodup_singleton _

/-- A thermostat declares those of its properties that come with its features. -/
theorem supported_thermostatCapability (f : Features) :
    (thermostatCapability f).supported.Sublist Interface.thermostat.spec.properties := by
  refine filterMap_sublist_map (g := Prod.snd) ?_ _
  rintro ⟨feature, name⟩ name' kept
  simp only at kept
  split at kept
  · exact (Option.some.inj kept).symm
  · cases kept

/-- Only thermostats declare less of an interface than its table has. -/
theorem supported_cases {c : Capability} (declared : c ∈ e.capabilities) :
    c = thermostatCapability e.attributes.features ∨ c.supported = c.interface.spec.properties := by
  have offered {features : List (Interface × Bool)}
      (declared : c ∈ Capability.full .power :: optional features) :
      c.supported = c.interface.spec.properties := by
    rcases List.mem_cons.1 declared with rfl | declared
    · rfl
    · obtain ⟨i, -, rfl⟩ := mem_optional declared
      rfl
  unfold capabilities at declared
  cases domain : e.domain <;> simp only [domain] at declared
  case light | cover | fan | mediaPlayer => exact .inr (offered declared)
  case alert | automation | group | inputBoolean | switch | lock | scene | script =>
    obtain rfl := List.mem_singleton.1 declared
    exact .inr rfl
  case climate =>
    rcases List.mem_cons.1 declared with rfl | declared
    · exact .inl rfl
    · obtain rfl := List.mem_singleton.1 declared
      exact .inr rfl
  case sensor =>
    split at declared
    · obtain rfl := List.mem_singleton.1 declared
      exact .inr rfl
    · cases declared
  case other => cases declared

/-- What is declared of an interface is a part of its table. -/
theorem supported_sublist {c : Capability} (declared : c ∈ e.capabilities) :
    c.supported.Sublist c.interface.spec.properties := by
  rcases supported_cases declared with rfl | all
  · exact supported_thermostatCapability _
  · rw [all]

end Entity

end HomeVoice
