import HomeVoice.Proofs.Discovery.Laws
import HomeVoice.Proofs.Handling.Dial
import HomeVoice.Proofs.Handling.Session
import HomeVoice.Proofs.Hub.Acceptance
import HomeVoice.Proofs.Measure.SpeedTable

/-!
# Percentages in reports

A report of the state gives brightness, percentage and volume as integers, made from attributes that
may have any type and any size. Brightness and volume are brought between 0 and 100 when they are
converted, and a fan has the percentage of a speed in its table. The position of a cover is reported
as the hub has it, so that it is in percent when it is so at the hub. Control never puts a cover
anywhere else: on a virtual hub a report is out of range only when the hub was so from the start.
-/

namespace HomeVoice

open Percent

namespace Entity

theorem proper_speedTable (e : Entity) : e.speedTable.Proper := by
  unfold speedTable
  split
  · exact SpeedTable.proper_ofSpeeds _
  · exact SpeedTable.proper_ofSpeeds []

theorem isPercentage_speedPercentage (e : Entity) : IsPercentage e.speedPercentage := by
  unfold speedPercentage
  cases known : (e.attributes.text? Key.speed).bind e.speedTable.percentageOf? with
  | none => exact ⟨by decide, by decide⟩
  | some p =>
    obtain ⟨speed, -, known⟩ := Option.bind_eq_some_iff.1 known
    exact e.proper_speedTable.isPercentage_of_percentageOf? known

/-- The position of a cover, if it has one, is a percentage. -/
def Positioned (e : Entity) : Prop :=
  e.domain = .cover → ∀ p, e.position? = some p → IsPercentage p

end Entity

namespace Control

variable {e e' : Entity} {unit : TemperatureUnit} {presentation : Option Presentation}
  {endpoint : Endpoint} {readings : List Reading}

/-- Control puts covers at percentages. -/
theorem Effect.positioned (effect : Effect e unit readings e') (same : e.SameDevice e')
    (positioned : e.Positioned) : e'.Positioned := by
  -- Whatever a cover is moved by, it is moved to a position.
  have put {e : Entity} {n p : Int64} (percentage : IsPercentage n)
      (found : (e.withAttribute Key.currentPosition (.int n)).position? = some p) :
      IsPercentage p := by
    rw [e.position?_withAttribute] at found
    exact Option.some.inj found ▸ percentage
  intro cover p found
  have before : e.domain = .cover := same.domain.symm.trans cover
  cases effect with
  | kept => exact positioned cover p found
  | opened | closed => exact put ⟨by decide, by decide⟩ found
  | moved _ percentage => exact put percentage found
  | on notCover | off notCover => exact absurd before notCover
  | restated plain => rcases plain with other | other <;> cases before.symm.trans other
  | dimmed other | colored other | whitened other | sped other | heated other | moded other
  | locked other | unlocked other | loud other | stepped other | muted other | selected other =>
    cases before.symm.trans other

namespace Dial

variable {dial : Dial} {p : Int64}

/-- Of the values in percent only the position of a cover is given as the hub has it. -/
theorem isPercentage_or_cover (has : dial.value? e = some p) :
    IsPercentage p ∨ dial = .percentage ∧ e.domain = .cover ∧ e.position? = some p := by
  cases dial with
  | brightness =>
    cases has
    exact .inl (isPercentage_clamp _)
  | percentage =>
    have has : e.percentage? = some p := has
    unfold Entity.percentage? at has
    split at has
    · next cover => exact .inr ⟨rfl, cover, has⟩
    · cases has
      exact .inl e.isPercentage_speedPercentage
    · cases has
  | volume =>
    obtain ⟨level, -, rfl⟩ := Option.map_eq_some_iff.1 has
    exact .inl (isPercentage_clamp _)

/-- No two interfaces have one property in percent. -/
theorem interface_of_property_mem {i : Interface} (listed : dial.property ∈ i.spec.properties) :
    i = dial.interface := by
  revert listed
  cases dial <;> cases i <;> simp [property, interface, Interface.spec]

/-- A report has a value in percent when the endpoint has its interface and the entity has the
value. -/
theorem mem_retrievable_iff (made : e.endpoint? presentation = some endpoint) {r : Reading}
    (named : r.name = dial.property) :
    r ∈ e.retrievable unit endpoint ↔
      dial.interface ∈ endpoint.interfaces ∧ ∃ p, dial.value? e = some p ∧ r = dial.reading p := by
  rw [Entity.mem_retrievable_iff, Endpoint.interfaces,
    Entity.capabilities_of_endpoint?_eq_some made]
  constructor
  · rintro ⟨-, ⟨c, declared, interface, supported⟩, read⟩
    rw [Entity.capabilities_of_endpoint?_eq_some made] at declared
    have listed := (Entity.supported_sublist declared).subset supported
    rw [interface, named] at listed
    have same := interface_of_property_mem listed
    rw [same, named, dial.read?_eq] at read
    obtain ⟨p, has, value⟩ := Option.map_eq_some_iff.1 read
    refine ⟨List.mem_map.2 ⟨c, declared, interface.trans same⟩, p, has, ?_⟩
    obtain ⟨i, name, v⟩ := r
    cases same
    cases named
    cases value
    rfl
  · rintro ⟨declared, p, has, rfl⟩
    obtain ⟨c, declared, interface⟩ := List.mem_map.1 declared
    refine ⟨dial.retrievable, ⟨c, ?_, interface, ?_⟩, ?_⟩
    · rw [Entity.capabilities_of_endpoint?_eq_some made]
      exact declared
    · rw [Entity.supported_of_ne_thermostat declared (interface ▸ dial.interface_ne_thermostat),
        interface]
      exact dial.property_mem
    · show e.read? dial.interface dial.property unit = _
      rw [dial.read?_eq, has]
      rfl

/-- Every value in percent is an integer from 0 to 100. -/
def InPercent (readings : List Reading) : Prop :=
  ∀ r ∈ readings, ∀ dial : Dial, r.name = dial.property →
    ∃ p, r.value = .ofInt64 p ∧ IsPercentage p

/-- Reports are in percent but for covers that are at no percentage. -/
theorem inPercent_retrievable_iff (made : e.endpoint? presentation = some endpoint) :
    InPercent (e.retrievable unit endpoint) ↔
      (.percentage ∈ endpoint.interfaces → e.Positioned) := by
  constructor
  · intro inPercent declared cover p at'
    have has : percentage.value? e = some p := by
      show e.percentage? = some p
      rw [Entity.percentage?, cover]
      exact at'
    have named : (percentage.reading p).name = percentage.property := rfl
    have given : percentage.reading p ∈ e.retrievable unit endpoint :=
      (mem_retrievable_iff made named).2 ⟨declared, p, has, rfl⟩
    obtain ⟨q, same, percentage⟩ := inPercent _ given _ named
    exact Json.ofInt64_injective same ▸ percentage
  · intro positioned r given dial named
    obtain ⟨declared, p, has, rfl⟩ := (mem_retrievable_iff made named).1 given
    refine ⟨p, rfl, ?_⟩
    rcases isPercentage_or_cover has with percentage | ⟨rfl, cover, at'⟩
    · exact percentage
    · exact positioned declared cover p at'

end Dial

end Control

namespace Hub

variable {settings : Settings} {hub : Hub}

/-- Every cover is at a percentage. -/
def Positioned (hub : Hub) : Prop :=
  ∀ e ∈ hub.entities, e.Positioned

theorem positioned_after (bounded : hub.FiniteBounds) (positioned : hub.Positioned) (a : Arrival) :
    (hub.after settings a).Positioned := by
  rcases after_cases bounded a with unchanged | ⟨e, member, e', readings, effect, same, changed⟩
  · rw [unchanged]
    exact positioned
  · rw [changed]
    intro x stored
    rcases mem_upsert stored with rfl | other
    · exact effect.positioned same (positioned e member)
    · exact positioned x other

/-- No messages move a cover away from the percentages. -/
theorem positioned_afterAll (bounded : hub.FiniteBounds) (positioned : hub.Positioned)
    (arrivals : List Arrival) : (hub.afterAll settings arrivals).Positioned := by
  induction arrivals generalizing hub with
  | nil => exact positioned
  | cons a rest ih => exact ih (finiteBounds_after bounded a) (positioned_after bounded positioned a)

end Hub

namespace Request

open Control.Dial

/-- Of whatever entity, a report gives each value in percent as an integer, once and as it is read
then, when the endpoint has the interface and the entity has the value. The integer is from 0 to 100
unless it is the position of a cover. So a report is in percent exactly when it is not that of a
cover at no percentage, and on a virtual hub that has no such cover it is so after any messages. -/
theorem reported_percentages (q : Request) (message : Json) :
    (∀ {σ : Type} (ports : Ports σ) (s : σ) (report : Response),
        ((q.handle message).run ports s).result = .ok report → report.name = "StateReport" →
      ∃ d e endpoint readings, Directive.ofMessage message = .ok d ∧
        q.lookUp (ports.store s) d = .ok (e, endpoint) ∧ report.context = some readings ∧
        (∀ r (dial : Control.Dial), r.name = dial.property →
          (r ∈ readings ↔ dial.interface ∈ endpoint.interfaces ∧
            ∃ p, dial.value? e = some p ∧ r = dial.reading p)) ∧
        (∀ r ∈ readings, ∀ dial : Control.Dial, r.name = dial.property →
          ∃ p, r.value = .ofInt64 p ∧ (IsPercentage p ∨
            dial = .percentage ∧ e.domain = .cover ∧ e.position? = some p)) ∧
        (InPercent readings ↔ (.percentage ∈ endpoint.interfaces → e.Positioned))) ∧
    ∀ (hub : Hub) (arrivals : List Arrival) (now : Timestamp) (report : Response),
        hub.FiniteBounds → hub.Positioned →
        q.resultOn now (hub.afterAll q.settings arrivals) message = .ok report →
        report.name = "StateReport" →
      ∃ readings, report.context = some readings ∧ InPercent readings := by
  have found {σ : Type} {ports : Ports σ} {s : σ} {report : Response}
      (given : ((q.handle message).run ports s).result = .ok report)
      (named : report.name = "StateReport") :
      ∃ d e endpoint, Directive.ofMessage message = .ok d ∧
        q.lookUp (ports.store s) d = .ok (e, endpoint) ∧ report = q.reported d e endpoint := by
    obtain ⟨d, hd, answered⟩ := answered_of_handle given
    obtain ⟨e, endpoint, -, found, rfl⟩ := answered.reported_of_name named
    exact ⟨d, e, endpoint, hd, found, rfl⟩
  constructor
  · intro σ ports s report given named
    obtain ⟨d, e, endpoint, hd, found, rfl⟩ := found given named
    obtain ⟨_, -, -, -, made⟩ := lookUp_eq_ok.1 found
    refine ⟨d, e, endpoint, _, hd, found, rfl, ?_, ?_, inPercent_retrievable_iff made⟩
    · intro r dial property
      exact mem_retrievable_iff made property
    · intro r member dial property
      obtain ⟨-, p, has, rfl⟩ := (mem_retrievable_iff made property).1 member
      exact ⟨p, rfl, isPercentage_or_cover has⟩
  · intro hub arrivals now report bounded positioned given named
    obtain ⟨d, e, endpoint, hd, found, rfl⟩ := found given named
    obtain ⟨_, -, -, stored, made⟩ := lookUp_eq_ok.1 found
    have member := (Hub.get?_eq_some_iff.1 (Hub.get?_of_ports_fetch stored)).1
    refine ⟨_, rfl, (inPercent_retrievable_iff made).2 fun _ => ?_⟩
    exact Hub.positioned_afterAll bounded positioned arrivals e member

end Request

/-- A cover at a position, which can be moved to any other. -/
def Entity.blind (position : Int64) : Entity :=
  { garage with
    attributes := ⟨[(Key.currentPosition, .int position), ("supported_features", .int 4)]⟩ }

namespace Request

open Control.Dial

/-- A cover at 40 percent that has been closed is reported to be at zero, and in percent. -/
theorem reported_percentages_blind :
    let q := exposing .all
    let hub := Hub.ofEntities [Entity.blind 40]
    let close : Arrival := ⟨(Directive.addressed "Alexa.PowerController" "TurnOff"
      Entity.garage.id).envelope, ⟨.zero, none⟩, ⟨.zero, .zero, ⟨1, 0⟩⟩, ⟨1, 0⟩, .none⟩
    let asks := (Directive.addressed "Alexa" "ReportState" Entity.garage.id).envelope
    hub.FiniteBounds ∧ hub.Positioned ∧ ∃ report readings,
      q.resultOn ⟨2, 0⟩ (hub.afterAll q.settings [close]) asks = .ok report ∧
      report.name = "StateReport" ∧
      (report.value? .percentage "percentage").bind Json.int64? = some 0 ∧
      report.context = some readings ∧ InPercent readings := by
  intro q hub close asks
  have bounded : hub.FiniteBounds := by
    intro e member climate
    obtain rfl := List.mem_singleton.1 member
    cases climate
  have positioned : hub.Positioned := by
    intro e member _ p at'
    obtain rfl := List.mem_singleton.1 member
    cases at'
    exact ⟨by decide, by decide⟩
  have answer : (q.resultOn ⟨2, 0⟩ (hub.afterAll q.settings [close]) asks).toOption.map
      (fun r => (r.name, (r.value? .percentage "percentage").bind Json.int64?)) =
        some ("StateReport", some 0) := by decide +kernel
  obtain ⟨report, reported, said⟩ := Option.map_eq_some_iff.1 answer
  have reported := eq_ok_of_toOption reported
  have named : report.name = "StateReport" := congrArg Prod.fst said
  obtain ⟨readings, context, inPercent⟩ :=
    (reported_percentages q asks).2 hub [close] ⟨2, 0⟩ report bounded positioned reported named
  exact ⟨bounded, positioned, report, readings, reported, named, congrArg Prod.snd said, context,
    inPercent⟩

/-- A cover that the hub has at 150 percent is reported to be there. -/
theorem reported_percentage_over_hundred :
    let hub := Hub.ofEntities [Entity.blind 150]
    let asks := (Directive.addressed "Alexa" "ReportState" Entity.garage.id).envelope
    ∃ report readings,
      (exposing .all).resultOn ⟨1, 0⟩ hub asks = .ok report ∧
      report.name = "StateReport" ∧ report.context = some readings ∧
      percentage.reading 150 ∈ readings ∧ ¬InPercent readings := by
  intro hub asks
  let endpoint := ((Entity.blind 150).endpoint? none).get rfl
  have made : (Entity.blind 150).endpoint? none = some endpoint := rfl
  refine ⟨_, (Entity.blind 150).retrievable .celsius endpoint, rfl, rfl, rfl, ?_, ?_⟩
  · exact (mem_retrievable_iff made rfl).2 ⟨by decide, 150, rfl, rfl⟩
  · intro inPercent
    have positioned := (inPercent_retrievable_iff made).1 inPercent (by decide)
    exact absurd (positioned rfl 150 rfl).2 (by decide)

end Request

end HomeVoice
