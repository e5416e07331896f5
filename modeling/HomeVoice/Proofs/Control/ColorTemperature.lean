import HomeVoice.Proofs.Binary64.Order
import HomeVoice.Proofs.Control.Decided
import HomeVoice.Proofs.Control.Dial
import HomeVoice.Proofs.Control.Effect
import HomeVoice.Proofs.Entity.Id

/-!
# Steps of the color temperature

White light is made colder or warmer by steps of fifty mireds, down to the least mireds of the light
and up to its greatest. The integers have 64 bits and steps stop at the last of them, which makes no
difference: what is sent is what it would be over all integers. Only a result that is not above zero
is refused, because it has no kelvins.
-/

namespace HomeVoice

theorem toInt_max (a b : Int64) : (max a b).toInt = max a.toInt b.toInt := by
  show (if a ≤ b then b else a).toInt = _
  split
  · next below =>
    rw [Int64.le_iff_toInt_le] at below
    omega
  · next above =>
    rw [Int64.le_iff_toInt_le] at above
    omega

theorem toInt_min (a b : Int64) : (min a b).toInt = min a.toInt b.toInt := by
  show (if a ≤ b then a else b).toInt = _
  split
  · next below =>
    rw [Int64.le_iff_toInt_le] at below
    omega
  · next above =>
    rw [Int64.le_iff_toInt_le] at above
    omega

namespace Color

/-- Mireds above zero have kelvins. -/
theorem exists_miredToKelvin {n : Int} (positive : 0 < n) :
    ∃ kelvin, miredToKelvin (.ofInt n) = .ok kelvin := by
  unfold miredToKelvin
  rw [if_neg fun nonpos => Int.not_le.2 positive (Binary64.ofInt_nonpos_iff.1 nonpos)]
  exact ⟨_, rfl⟩

theorem miredToKelvin_of_nonpos {n : Int} (nonpos : n ≤ 0) :
    miredToKelvin (.ofInt n) = .error (.zero "color_temp") := by
  unfold miredToKelvin
  rw [if_pos (Binary64.ofInt_nonpos nonpos)]

end Color

/-- An attribute of an entity as mireds, which are whole. -/
def Entity.mireds? (e : Entity) (key : String) : Option Int :=
  (e.attributes.int? key).map Int64.toInt

namespace Control

/-- A light is told to be at some mireds, which are said in kelvins. -/
structure Whitens (s : Situation) (mireds : Int) (o : Outcome) : Prop where
  fits : ∃ n : Int64, n.toInt = mireds
  called : o.call = some ⟨"light", "turn_on", s.entity.id, [(Key.colorTemperature, .int mireds)]⟩
  readings : ∃ kelvin, Color.miredToKelvin (.ofInt mireds) = .ok kelvin ∧
    o.readings = [⟨.colorTemperature, "colorTemperatureInKelvin", .ofInt64 kelvin⟩]

/-- Mireds above zero are sent, and others are out of range. -/
theorem colorTemperatureOutcome_cases {s : Situation} (light : s.entity.domain = .light)
    (mireds : Int64) :
    (0 < mireds.toInt ∧ ∃ o, colorTemperatureOutcome s mireds = .ok o ∧
      Whitens s mireds.toInt o) ∨
    (mireds.toInt ≤ 0 ∧ ∃ r, colorTemperatureOutcome s mireds = .error r ∧
      r.kind = "VALUE_OUT_OF_RANGE") := by
  rcases Int.lt_or_le 0 mireds.toInt with positive | nonpos
  · left
    obtain ⟨kelvin, back⟩ := Color.exists_miredToKelvin positive
    refine ⟨positive, whiteOutcome s mireds kelvin,
      colorTemperatureOutcome_eq_ok.2 ⟨kelvin, back, rfl⟩, ⟨mireds, rfl⟩, ?_, kelvin, back, rfl⟩
    have domain : s.entity.id.domainName = "light" := by
      rw [EntityId.domainName_eq]
      exact congrArg Domain.name light
    simp only [whiteOutcome, Situation.call, ServiceCall.own, ServiceCall.inDomain, domain]
    rfl
  · right
    have refused : Color.miredToKelvin (.ofInt64 mireds) = .error (.zero "color_temp") :=
      Color.miredToKelvin_of_nonpos nonpos
    refine ⟨nonpos, .outOfRange (.zero "color_temp"), ?_, rfl⟩
    rw [colorTemperatureOutcome, refused]
    rfl

/-- A step of the color temperature. -/
inductive WhiteStep where
  | colder
  | warmer
  deriving DecidableEq

namespace WhiteStep

/-- The kind of the directives that ask for a step. -/
def kind : WhiteStep → DirectiveKind
  | .colder => .increaseColorTemperature
  | .warmer => .decreaseColorTemperature

/-- The attribute that holds the mireds where steps end. -/
def bound : WhiteStep → String
  | .colder => Key.minMireds
  | .warmer => Key.maxMireds

/-- What a directive that asks for a step comes to. -/
def judge : WhiteStep → Situation → Except Refusal Outcome
  | .colder => increaseColorTemperature
  | .warmer => decreaseColorTemperature

/-- The mireds after a step, where steps end at `last`. -/
def mireds (step : WhiteStep) (last current : Int) : Int :=
  match step with
  | .colder => max last (current - 50)
  | .warmer => min last (current + 50)

/-- The mireds after a step, in 64 bits. -/
def sent (step : WhiteStep) (last current : Int64) : Int64 :=
  match step with
  | .colder => max last (.ofIntClamp (current.toInt - miredStep))
  | .warmer => min last (.ofIntClamp (current.toInt + miredStep))

variable {step : WhiteStep} {s : Situation} {last current : Int64}

theorem route (step : WhiteStep) : step.kind.route = .control step.judge := by
  cases step <;> rfl

/-- Steps that stop at the ends of 64 bits come to what they come to over all integers. -/
theorem toInt_sent (step : WhiteStep) (last current : Int64) :
    (step.sent last current).toInt = step.mireds last.toInt current.toInt := by
  have lowest := last.minValue_le_toInt
  have highest := last.toInt_le
  have lowest' := current.minValue_le_toInt
  have highest' := current.toInt_le
  cases step with
  | colder =>
    show (max last (.ofIntClamp (current.toInt - 50))).toInt = max last.toInt (current.toInt - 50)
    rw [toInt_max, toInt_ofIntClamp_eq]
    omega
  | warmer =>
    show (min last (.ofIntClamp (current.toInt + 50))).toInt = min last.toInt (current.toInt + 50)
    rw [toInt_min, toInt_ofIntClamp_eq]
    omega

theorem judge_eq
    (now : s.entity.attributes.int? Key.colorTemperature = some current)
    (ends : s.entity.attributes.int? step.bound = some last) :
    step.judge s = colorTemperatureOutcome s (step.sent last current) := by
  have now : s.needs (s.entity.attributes.requireInt Key.colorTemperature) = .ok current :=
    needs_eq_ok.2 (Attributes.require_eq_ok_iff.2 now)
  have ends : s.needs (s.entity.attributes.requireInt step.bound) = .ok last :=
    needs_eq_ok.2 (Attributes.require_eq_ok_iff.2 ends)
  cases step with
  | colder =>
    show increaseColorTemperature s = _
    unfold increaseColorTemperature
    rw [now, show s.needs (s.entity.attributes.requireInt Key.minMireds) = _ from ends]
    rfl
  | warmer =>
    show decreaseColorTemperature s = _
    unfold decreaseColorTemperature
    rw [now, show s.needs (s.entity.attributes.requireInt Key.maxMireds) = _ from ends]
    rfl

/-- What a step comes to at a light whose mireds and last mireds are whole. -/
theorem judge_cases {last current : Int} (light : s.entity.domain = .light)
    (now : s.entity.mireds? Key.colorTemperature = some current)
    (ends : s.entity.mireds? step.bound = some last) :
    (0 < step.mireds last current ∧ ∃ o, step.judge s = .ok o ∧
      Whitens s (step.mireds last current) o) ∨
    (step.mireds last current ≤ 0 ∧ ∃ r, step.judge s = .error r ∧
      r.kind = "VALUE_OUT_OF_RANGE") := by
  obtain ⟨current, read, rfl⟩ := Option.map_eq_some_iff.1 now
  obtain ⟨last, readLast, rfl⟩ := Option.map_eq_some_iff.1 ends
  rw [judge_eq read readLast, ← toInt_sent]
  exact colorTemperatureOutcome_cases light (step.sent last current)

/-! ## Steps one after another -/

/-- The mireds after a step of a light that is between two bounds. -/
def next (least greatest current : Int) (step : WhiteStep) : Int :=
  match step with
  | .colder => step.mireds least current
  | .warmer => step.mireds greatest current

variable {least greatest now : Int}

theorem next_within (low : least ≤ now) (high : now ≤ greatest) (step : WhiteStep) :
    least ≤ next least greatest now step ∧ next least greatest now step ≤ greatest := by
  cases step <;> simp only [next, mireds] <;> omega

/-- Whatever steps are taken, the light stays between the bounds. -/
theorem foldl_next_within (low : least ≤ now) (high : now ≤ greatest) (steps : List WhiteStep) :
    least ≤ steps.foldl (next least greatest) now ∧
      steps.foldl (next least greatest) now ≤ greatest := by
  induction steps generalizing now with
  | nil => exact ⟨low, high⟩
  | cons step rest ih =>
    obtain ⟨low', high'⟩ := next_within low high step
    exact ih low' high'

/-- Steps in one direction add up, and end where one step does. -/
theorem foldl_next_colder (greatest : Int) (low : least ≤ now) (k : Nat) :
    (List.replicate k colder).foldl (next least greatest) now = max least (now - 50 * k) := by
  induction k generalizing now with
  | zero =>
    rw [List.replicate_zero, List.foldl_nil]
    omega
  | succ k ih =>
    rw [List.replicate_succ, List.foldl_cons]
    rw [show next least greatest now colder = max least (now - 50) from rfl, ih (by omega)]
    omega

theorem foldl_next_warmer (least : Int) (high : now ≤ greatest) (k : Nat) :
    (List.replicate k warmer).foldl (next least greatest) now = min greatest (now + 50 * k) := by
  induction k generalizing now with
  | zero =>
    rw [List.replicate_zero, List.foldl_nil]
    omega
  | succ k ih =>
    rw [List.replicate_succ, List.foldl_cons]
    rw [show next least greatest now warmer = min greatest (now + 50) from rfl, ih (by omega)]
    omega

end WhiteStep

/-- A light at some mireds between two bounds. -/
structure White (e : Entity) (least greatest current : Int) : Prop where
  light : e.domain = .light
  least : e.mireds? Key.minMireds = some least
  greatest : e.mireds? Key.maxMireds = some greatest
  current : e.mireds? Key.colorTemperature = some current

namespace White

variable {e : Entity} {least greatest current : Int}

theorem mireds?_bound (white : White e least greatest current) (step : WhiteStep) :
    ∃ last, e.mireds? step.bound = some last ∧
      step.mireds last current = WhiteStep.next least greatest current step := by
  cases step with
  | colder => exact ⟨least, white.least, rfl⟩
  | warmer => exact ⟨greatest, white.greatest, rfl⟩

/-- The same device has the same bounds. -/
theorem of_sameDevice {e' : Entity} {mireds : Int} (white : White e least greatest current)
    (same : e.SameDevice e') (set : e'.mireds? Key.colorTemperature = some mireds) :
    White e' least greatest mireds where
  light := same.domain.trans white.light
  least := (congrArg (Option.map Int64.toInt) (same.int? (by decide))).trans white.least
  greatest := (congrArg (Option.map Int64.toInt) (same.int? (by decide))).trans white.greatest
  current := set

/-- A light that is told to be at some mireds is there. -/
theorem serve (white : White e least greatest current) (mireds : Int64) :
    ∃ e', e.serve ⟨"light", "turn_on", e.id, [(Key.colorTemperature, .int mireds.toInt)]⟩ = .ok e' ∧
      e.SameDevice e' ∧ White e' least greatest mireds.toInt := by
  have served : e.serve ⟨"light", "turn_on", e.id, [(Key.colorTemperature, .ofInt64 mireds)]⟩ =
      .ok ((e.withAttribute Key.colorTemperature (.int mireds)).withState "on") :=
    (Entity.serve_of_turn_on rfl).trans
      (congrArg Except.ok (Entity.turnedOn_colorTemperature white.light mireds))
  have same := Entity.SameDevice.serve served
  refine ⟨_, served, same, white.of_sameDevice same ?_⟩
  exact congrArg (Option.map Int64.toInt) (Entity.int?_withAttribute_self e _ _)

end White

end Control

end HomeVoice
