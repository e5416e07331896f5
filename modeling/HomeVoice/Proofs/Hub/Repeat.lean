import HomeVoice.Proofs.Control.Effect

/-!
# Services that can be repeated

A service sets the state of an entity and attributes to what its data say, whatever they were. So
calling it once more changes nothing. Only the services that move the volume by a step depend on
what they write.
-/

namespace HomeVoice

namespace Dict

variable {α : Type} {k k' : String} {v v' : α} {d : Dict α}

/-- The last value that is set for a key counts. -/
theorem insert_insert_self (k : String) (v v' : α) (d : Dict α) :
    (d.insert k v').insert k v = d.insert k v := by
  induction d with
  | nil => simp only [insert, if_neg (String.lt_irrefl k), if_true]
  | cons entry rest ih =>
    obtain ⟨key, value⟩ := entry
    by_cases before : k < key
    · simp only [insert, if_pos before, if_neg (String.lt_irrefl k), if_true]
    · by_cases found : key = k
      · simp only [insert, if_neg before, if_pos found, if_neg (String.lt_irrefl k), if_true]
      · simp only [insert, if_neg before, if_neg found, ih]

/-- A value that has been set stays set while another key gets a value. -/
theorem insert_of_settled (settled : d.insert k v = d) (ne : k ≠ k') (v' : α) :
    (d.insert k' v').insert k v = d.insert k' v' := by
  induction d with
  | nil => simp [insert] at settled
  | cons entry rest ih =>
    obtain ⟨key, value⟩ := entry
    have notBefore : ¬k < key := by
      intro before
      simp [insert, before] at settled
    by_cases found : key = k
    · subst found
      obtain rfl : v = value := by simpa [insert, notBefore] using settled
      by_cases before : k' < key
      · simp only [insert, if_pos before, if_neg (String.lt_asymm before), if_neg ne.symm, if_true,
          if_neg notBefore]
      · simp only [insert, if_neg before, if_neg ne, if_true, if_neg notBefore]
    · have settled_rest : insert k v rest = rest := by
        simpa [insert, notBefore, found] using settled
      by_cases before : k' < key
      · have earlier : ¬k < k' := fun later => notBefore (String.lt_trans later before)
        simp only [insert, if_pos before, if_neg earlier, if_neg ne.symm, if_neg notBefore,
          if_neg found, settled_rest]
      · by_cases found' : key = k'
        · subst found'
          simp only [insert, if_neg before, if_true, if_neg notBefore, if_neg found, settled_rest]
        · simp only [insert, if_neg before, if_neg found', if_neg notBefore, if_neg found,
            ih settled_rest]

end Dict

namespace Entity

variable {e e' : Entity} {key other : String} {value : Option AttributeValue}

/-- To set an attribute would change nothing. -/
def Settled (e : Entity) (key : String) (value : Option AttributeValue) : Prop :=
  e.withAttribute? key value = e

theorem settled_withAttribute? (e : Entity) (key : String) (value : Option AttributeValue) :
    (e.withAttribute? key value).Settled key value := by
  cases value with
  | none => rfl
  | some v =>
    have again := Dict.insert_insert_self key v v e.attributes.entries
    exact congrArg (fun entries => { e with attributes := ⟨entries⟩ }) again

namespace Settled

theorem withAttribute? (settled : e.Settled key value) (ne : key ≠ other)
    (value' : Option AttributeValue) : (e.withAttribute? other value').Settled key value := by
  cases value with
  | none => rfl
  | some v =>
    cases value' with
    | none => exact settled
    | some v' =>
      have entries : e.attributes.entries.insert key v = e.attributes.entries :=
        congrArg (fun e => e.attributes.entries) settled
      exact congrArg (fun entries => { e with attributes := ⟨entries⟩ })
        (Dict.insert_of_settled entries ne v')

theorem withState (settled : e.Settled key value) (state : String) :
    (e.withState state).Settled key value := by
  cases value with
  | none => rfl
  | some v => exact congrArg (fun e => e.withState state) settled

end Settled

theorem withAttribute_again (e : Entity) (key : String) (value : AttributeValue) :
    (e.withAttribute key value).withAttribute key value = e.withAttribute key value :=
  e.settled_withAttribute? key (some value)

theorem withState_withAttribute_again (e : Entity) (state key : String) (value : AttributeValue) :
    (((e.withState state).withAttribute key value).withState state).withAttribute key value =
      (e.withState state).withAttribute key value :=
  (e.withState state).withAttribute_again key value

/-! ## Several attributes at once -/

/-- The entity with attributes set, as far as there are values for them. -/
def withAttributes (e : Entity) (settings : List (String × Option AttributeValue)) : Entity :=
  settings.foldl (fun e setting => e.withAttribute? setting.1 setting.2) e

variable {settings : List (String × Option AttributeValue)}

theorem Settled.withAttributes (settled : e.Settled key value)
    (others : ∀ setting ∈ settings, key ≠ setting.1) :
    (e.withAttributes settings).Settled key value := by
  induction settings generalizing e with
  | nil => exact settled
  | cons head rest ih =>
    have ne : key ≠ head.1 := others head List.mem_cons_self
    exact ih (settled.withAttribute? ne head.2) fun setting member =>
      others setting (List.mem_cons_of_mem _ member)

theorem settled_withAttributes (distinct : (settings.map Prod.fst).Nodup) (e : Entity) :
    ∀ setting ∈ settings, (e.withAttributes settings).Settled setting.1 setting.2 := by
  induction settings generalizing e with
  | nil => simp
  | cons head rest ih =>
    obtain ⟨new, distinct⟩ := List.nodup_cons.1 distinct
    intro setting member
    rcases List.mem_cons.1 member with rfl | member
    · refine (e.settled_withAttribute? setting.1 setting.2).withAttributes ?_
      intro other member same
      exact new (List.mem_map.2 ⟨other, member, same.symm⟩)
    · exact ih distinct (e.withAttribute? head.1 head.2) setting member

theorem withAttributes_of_settled
    (settled : ∀ setting ∈ settings, e.Settled setting.1 setting.2) :
    e.withAttributes settings = e := by
  induction settings with
  | nil => rfl
  | cons head rest ih =>
    have first : e.withAttribute? head.1 head.2 = e := settled head List.mem_cons_self
    show Entity.withAttributes (e.withAttribute? head.1 head.2) rest = e
    rw [first]
    exact ih fun setting member => settled setting (List.mem_cons_of_mem _ member)

theorem withAttributes_again (distinct : (settings.map Prod.fst).Nodup) (e : Entity) :
    (e.withAttributes settings).withAttributes settings = e.withAttributes settings :=
  withAttributes_of_settled (settled_withAttributes distinct e)

/-! ## Services -/

/-- What an entity of a domain takes along when it is turned on. -/
def onSettings (domain : Domain) (data : Dict Json) : List (String × Option AttributeValue) :=
  match domain with
  | .light => [
    (Key.brightness, (data.get? Key.brightnessPercent).bind Json.int64? |>.map fun percent =>
      .int (Percent.toBrightness percent)),
    (Key.colorTemperature, (data.get? Key.colorTemperature).bind Json.int64? |>.map .int),
    (Key.rgbColor, (data.get? Key.rgbColor).map .ofJson)]
  | .fan => [(Key.speed, (data.get? Key.speed).bind Json.str? |>.map .text)]
  | _ => []

theorem distinct_onSettings (domain : Domain) (data : Dict Json) :
    ((onSettings domain data).map Prod.fst).Nodup := by
  have light : [Key.brightness, Key.colorTemperature, Key.rgbColor].Nodup := by decide
  unfold onSettings
  split
  · exact light
  · simp
  · simp

theorem turnedOn_eq (notScene : e.domain ≠ .scene) (data : Dict Json) :
    e.turnedOn data = (e.withAttributes (onSettings e.domain data)).withState "on" := by
  unfold turnedOn
  cases domain : e.domain with
  | scene => exact absurd domain notScene
  | _ => rfl

theorem turnedOn_again (e : Entity) (data : Dict Json) :
    (e.turnedOn data).turnedOn data = e.turnedOn data := by
  have same := (SameDevice.turnedOn e data).domain
  by_cases scene : e.domain = .scene
  · have unchanged : e.turnedOn data = e := by
      unfold turnedOn
      rw [scene]
    rw [unchanged, unchanged]
  · have settled := settled_withAttributes (distinct_onSettings e.domain data) e
    rw [turnedOn_eq (same ▸ scene), same, turnedOn_eq scene, withAttributes_of_settled]
    · rfl
    · exact fun setting member => (settled setting member).withState "on"

theorem withSetpoints_again (e : Entity) (data : Dict Json) :
    (e.withSetpoints data).withSetpoints data = e.withSetpoints data := by
  let settings := setpointKeys.map fun key =>
    (key, (data.get? key).bind Json.number? |>.map AttributeValue.number)
  have distinct : (settings.map Prod.fst).Nodup := show setpointKeys.Nodup by decide
  have set (e : Entity) : e.withSetpoints data = e.withAttributes settings := rfl
  rw [set, set, withAttributes_again distinct]

theorem turnedOff_again (e : Entity) : e.turnedOff.turnedOff = e.turnedOff := by
  have same := (SameDevice.turnedOff e).domain
  by_cases scene : e.domain = .scene
  · have unchanged : e.turnedOff = e := if_pos scene
    rw [unchanged, unchanged]
  · have changed {e : Entity} (notScene : e.domain ≠ .scene) : e.turnedOff = e.withState "off" :=
      if_neg notScene
    rw [changed (same ▸ scene), changed scene]
    rfl

/-- The services that move a value on from what it is. -/
def steppingServices : List String := ["volume_up", "volume_down"]

/-- A service that has been done and is done once more changes nothing. -/
theorem serve_again {c : ServiceCall} (steady : c.service ∉ steppingServices)
    (served : e.serve c = .ok e') : e'.serve c = .ok e' := by
  unfold serve at served ⊢
  split at served
  case h_1 =>
    cases served
    rw [turnedOn_again]
  case h_2 =>
    cases served
    rw [turnedOff_again]
  case h_3 | h_4 =>
    cases served
    rw [withState_withAttribute_again]
  -- These take a value from the data, and take the same one again.
  case h_5 | h_6 | h_8 =>
    obtain ⟨value, given, rfl⟩ := map_eq_ok.1 served
    rw [given]
    exact congrArg Except.ok (withState_withAttribute_again ..)
  case h_7 =>
    split at served
    case isTrue given =>
      cases served
      rw [if_pos given, withSetpoints_again]
    case isFalse => cases served
  case h_11 | h_14 | h_20 =>
    obtain ⟨value, given, rfl⟩ := map_eq_ok.1 served
    rw [given]
    exact congrArg Except.ok (withAttribute_again ..)
  -- The steps of the volume.
  case h_12 up => exact absurd (by rw [up]; decide) steady
  case h_13 down => exact absurd (by rw [down]; decide) steady
  case h_21 => cases served
  -- What is left sets a state that depends on nothing, or nothing at all.
  all_goals
    cases served
    rfl

end Entity

end HomeVoice
