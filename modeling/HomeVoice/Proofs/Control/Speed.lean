import HomeVoice.Proofs.Control.Decided
import HomeVoice.Proofs.Hub.Service
import HomeVoice.Proofs.Measure.SpeedTable

/-!
# The speeds of fans

A fan is told a percentage and runs at a speed, and its speed is reported as a percentage. Because
the two directions form a Galois connection, what is reported of a speed selects the speed again,
and a fan whose percentage is changed by nothing goes on as before.
-/

namespace HomeVoice

open SpeedTable

namespace Control

variable {s : Situation} {speed : String}

theorem currentPercentage_of_fan (fan : s.entity.domain = .fan) :
    currentPercentage s = .ok s.entity.speedPercentage := by
  unfold currentPercentage
  rw [fan]

theorem percentageCall_of_fan (fan : s.entity.domain = .fan) (percentage : Int64) :
    percentageCall s percentage =
      .ok ((s.call "set_speed").withData Key.speed
        (.str (s.entity.speedTable.speedFor percentage))) := by
  unfold percentageCall
  rw [fan]

/-- The call that tells a fan a speed. -/
def speedCall (s : Situation) (speed : String) : ServiceCall :=
  (s.call "set_speed").withData Key.speed (.str speed)

/-- A fan whose percentage is changed by nothing is told the speed that it has. -/
theorem adjustPercentage_zero_of_fan (fan : s.entity.domain = .fan)
    (proper : s.entity.speedTable.Proper) (few : s.entity.speedTable.speeds.length ≤ 100)
    (runs : s.entity.attributes.text? Key.speed = some speed) {q : Int64}
    (known : s.entity.speedTable.percentageOf? speed = some q)
    (asked : s.payload.requireInt "percentageDelta" = .ok 0) :
    adjustPercentage s =
      .ok (percentageAnswer (speedCall s speed) (Percent.shift q 0)) := by
  have current : s.entity.speedPercentage = q := by
    unfold Entity.speedPercentage
    rw [runs, Option.bind_some, known]
    rfl
  have kept : s.entity.speedTable.speedFor (Percent.shift q 0) = speed := by
    rw [Percent.shift_zero, speedFor_clamp, proper.speedFor_percentageOf? few known]
  refine bind_eq_ok.2 ⟨0, asked, bind_eq_ok.2 ⟨q, ?_, ?_⟩⟩
  · rw [currentPercentage_of_fan fan, current]
  · refine percentageOutcome_eq_ok.2 ⟨speedCall s speed, ?_, rfl⟩
    rw [percentageCall_of_fan fan, kept]
    rfl

/-- A fan that is told a speed has it. -/
theorem serve_speedCall (s : Situation) (speed : String) :
    ∃ e', s.entity.serve (speedCall s speed) = .ok e' ∧
      e'.attributes.text? Key.speed = some speed :=
  ⟨_, rfl, Entity.text?_withAttribute_self _ Key.speed (.text speed)⟩

/-- The speeds that a fan lists, without standing still, or the standard ones when there are no
others, are evenly spaced over the percentages. The first place that reaches a percentage and the
percentage that a place stands for are a Galois connection. So a percentage stands still exactly
when it is not positive; else it has the speed of the first place that reaches it, there always is
one, it moves up with the percentage, and it is the last one for a hundred percent and more. With no
more than a hundred speeds, what a speed stands for selects the speed again, and a fan whose
percentage is changed by nothing is told to keep its speed and does. -/
theorem galoisConnection_of_speeds (speeds : List String) :
    GaloisConnection (ofSpeeds speeds).step (ofSpeeds speeds).level ∧
    let t := ofSpeeds speeds
    let kept := speeds.filter (· ≠ off)
    let n := t.speeds.length
    t.speeds = (if kept = [] then ["low", "medium", "high"] else kept) ∧ 1 ≤ n ∧
    (∀ p, t.speedFor p = off ↔ p ≤ 0) ∧
    (∀ p, 1 ≤ p → ∃ place, t.Selects p place ∧ place ≤ n ∧
      t.speeds[place - 1]? = some (t.speedFor p)) ∧
    (∀ p p' place place', p ≤ p' → t.Selects p place → t.Selects p' place' → place ≤ place') ∧
    (∀ p, 100 ≤ p → t.speeds.getLast? = some (t.speedFor p)) ∧
    (n ≤ 100 →
      (∀ speed q, t.percentageOf? speed = some q → t.speedFor q = speed) ∧
      ∀ (s : Situation) speed q, s.entity.domain = .fan → s.entity.speedTable = t →
        s.entity.attributes.text? Key.speed = some speed → t.percentageOf? speed = some q →
        s.payload.requireInt "percentageDelta" = .ok 0 →
        ∃ o e', adjustPercentage s = .ok o ∧ o.call = some (speedCall s speed) ∧
          s.entity.serve (speedCall s speed) = .ok e' ∧
          e'.attributes.text? Key.speed = some speed) := by
  have proper : (ofSpeeds speeds).Proper := proper_ofSpeeds speeds
  refine ⟨proper.gc_step, ?_⟩
  intro t kept n
  refine ⟨?_, proper.inhabited, fun p => proper.speedFor_eq_off_iff, ?_, ?_,
    fun p => proper.getLast?_eq_speedFor, ?_⟩
  · split
    · next none => exact congrArg SpeedTable.speeds (ofSpeeds_of_filter_eq_nil none)
    · next some => exact speeds_ofSpeeds_of_filter_ne_nil some
  · intro p pos
    have selected := proper.selects_step pos
    exact ⟨_, selected, proper.getElem?_of_selects pos selected⟩
  · intro p p' place place' le selected selected'
    exact selects_mono le selected selected'
  · refine fun few => ⟨fun speed q => proper.speedFor_percentageOf? few, ?_⟩
    intro s speed q fan table runs known asked
    rw [← table] at known
    have decided :=
      adjustPercentage_zero_of_fan fan (table ▸ proper) (table ▸ few) runs known asked
    obtain ⟨e', served, runs'⟩ := serve_speedCall s speed
    exact ⟨_, e', decided, rfl, served, runs'⟩

end Control

/-- A fan that lists one of its speeds twice and runs at it. -/
def Entity.studio : Entity :=
  ⟨⟨Domain.fan.name, "studio", by decide, by decide, by decide⟩, "on",
    ⟨[(Key.speed, .text "low"),
      (Key.speedList, .json (.ofStrings ["off", "low", "low", "high"]))]⟩, ⟨0, 0⟩⟩

/-- Asks for no change. -/
def Payload.unchanged : Payload :=
  ⟨[("percentageDelta", .int 0)]⟩

namespace Control

/-- The fan is at 33 percent, the place of the first of its speeds, and is told to keep it. -/
theorem galoisConnection_of_speeds_studio :
    let t := ofSpeeds ["off", "low", "low", "high"]
    let s : Situation := ⟨.studio, .unchanged, .celsius, ⟨0, 0⟩⟩
    t.speeds = ["low", "low", "high"] ∧ t.percentageOf? "low" = some 33 ∧ t.speedFor 33 = "low" ∧
      (∃ place, t.Selects 67 place ∧ t.speeds[place - 1]? = some "high") ∧
      ∃ o e', adjustPercentage s = .ok o ∧ o.call = some (speedCall s "low") ∧
        s.entity.serve (speedCall s "low") = .ok e' ∧
        e'.attributes.text? Key.speed = some "low" := by
  intro t s
  obtain ⟨-, speeds, -, -, selected, -, -, kept⟩ :=
    galoisConnection_of_speeds ["off", "low", "low", "high"]
  obtain ⟨back, kept⟩ := kept (by decide)
  have known : t.percentageOf? "low" = some 33 := by decide +kernel
  obtain ⟨place, first, -, high⟩ := selected 67 (by decide)
  rw [show t.speedFor 67 = "high" by decide +kernel] at high
  exact ⟨speeds, known, back _ _ known, ⟨place, first, high⟩,
    kept s "low" 33 rfl rfl rfl known (eq_ok_of_toOption (by decide +kernel))⟩

end Control

end HomeVoice
