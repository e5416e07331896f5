import HomeVoice.Bridge.Control.Table
import HomeVoice.Proofs.Entity.Attributes
import HomeVoice.Proofs.Fallible

/-!
# What controls refuse

A control is asked only about an entity that has been found, and it never says otherwise. It blames
the request, with one exception: when the entity lacks an attribute that the directive cannot do
without, the fault is told to be internal. `Control.Lacks` says for each kind of directive which
attributes these are.
-/

namespace HomeVoice

namespace Refusal

/-- Whether a refusal admits that there is the endpoint. -/
def Admits : Refusal → Prop
  | .noSuchEndpoint _ => False
  | _ => True

/-- Whether a refusal blames the request. -/
def Blames : Refusal → Prop
  | .noSuchEndpoint _ | .internal _ => False
  | _ => True

/-- Whether a refusal is for an internal fault. -/
def Internal : Refusal → Prop
  | .internal _ => True
  | _ => False

/-- Whether a refusal says that the directive is invalid. -/
def Invalid : Refusal → Prop
  | .invalidDirective _ => True
  | _ => False

theorem Invalid.kind {r : Refusal} (h : r.Invalid) : r.kind = "INVALID_DIRECTIVE" := by
  cases r with
  | invalidDirective reason => rfl
  | _ => cases h

theorem Invalid.blames {r : Refusal} (h : r.Invalid) : r.Blames := by
  cases r with
  | invalidDirective reason => trivial
  | _ => cases h

theorem Blames.admits {r : Refusal} (h : r.Blames) : r.Admits := by
  cases r <;> trivial

theorem Internal.admits {r : Refusal} (h : r.Internal) : r.Admits := by
  cases r <;> trivial

theorem Blames.not_internal {r : Refusal} (h : r.Blames) : ¬r.Internal := by
  intro internal
  cases r with
  | internal fault => exact h
  | _ => exact internal

end Refusal

/-- A computation that is refused only in ways that blame the request. -/
abbrev Blaming {α : Type} (x : Except Refusal α) : Prop :=
  FailsWith Refusal.Blames x

namespace Payload

variable (p : Payload) (key : String)

theorem invalid_require : FailsWith Refusal.Invalid (p.require key) := by
  unfold require
  split
  · exact .ok _
  · exact .error trivial

theorem invalid_requireAs {α : Type} (view : Json → Option α) :
    FailsWith Refusal.Invalid (requireAs view p key) := by
  refine (p.invalid_require key).bind ?_
  intro j
  split
  · exact .ok _
  · exact .error trivial

theorem invalid_optionalTemperature : FailsWith Refusal.Invalid (p.optionalTemperature key) := by
  unfold optionalTemperature
  split
  · exact (p.invalid_requireAs key _).map _
  · exact .ok _

theorem blaming_requireAs {α : Type} (view : Json → Option α) : Blaming (requireAs view p key) :=
  (p.invalid_requireAs key view).mono fun _ => Refusal.Invalid.blames

theorem blaming_requireInt : Blaming (p.requireInt key) :=
  (p.blaming_requireAs key _).map _

end Payload

namespace Situation

variable (s : Situation)

/-- What an entity lacks makes a decision fail inside. -/
theorem failsWith_needs {α : Type} {sort : Refusal → Prop} {view : AttributeValue → Option α}
    {key : String}
    (internal : (s.entity.attributes.get? key).bind view = none →
      ∀ fault, sort (.internal fault)) :
    FailsWith sort (s.needs (s.entity.attributes.require view key)) := by
  intro r refused
  obtain ⟨fault, failed, rfl⟩ := mapError_eq_error.1 refused
  exact internal (Attributes.require_eq_error_iff.1 ⟨fault, failed⟩) _

theorem internal_needs_bind {α β : Type} {view : AttributeValue → Option α} {key : String}
    {next : α → Except Refusal β}
    (h : (s.entity.attributes.get? key).bind view = none ∨
      ∀ a, ∃ fault, next a = .error (.internal fault)) :
    ∃ fault,
      (s.needs (s.entity.attributes.require view key)).bind next = .error (.internal fault) := by
  cases read : s.entity.attributes.require view key with
  | error fault => exact ⟨.attribute s.entity.id fault, rfl⟩
  | ok a =>
    rcases h with none | later
    · obtain ⟨fault, failed⟩ := Attributes.require_eq_error_iff.2 none
      cases read.symm.trans failed
    · exact later a

theorem blaming_percentArgument (name : String) : Blaming (s.percentArgument name) := by
  refine (s.payload.blaming_requireInt name).bind ?_
  intro n
  split
  · exact .ok _
  · exact .error trivial

end Situation

namespace Control

variable (s : Situation)

theorem blaming_colorTemperatureOutcome (mireds : Int64) :
    Blaming (colorTemperatureOutcome s mireds) :=
  (FailsWith.mapError fun _ => trivial).map _

theorem blaming_percentageOutcome (percentage : Int64) :
    Blaming (percentageOutcome s percentage) := by
  refine FailsWith.map ?_ _
  unfold percentageCall
  split
  · exact .ok _
  · exact .ok _
  · exact .error trivial

/-! ## How setpoints are refused -/

/-- How setpoints are refused: the directive is invalid, or a value is told to be outside the
range. -/
def SetpointRange.Refuses (range : SetpointRange) (r : Refusal) : Prop :=
  r.Invalid ∨ ∃ value, r = range.outside value

theorem SetpointRange.Refuses.blames {range : SetpointRange} {r : Refusal}
    (h : range.Refuses r) : r.Blames := by
  rcases h with invalid | ⟨value, rfl⟩
  · exact invalid.blames
  · trivial

section Setpoints

variable (p : Payload) (range : SetpointRange)

theorem failsWith_check (value : Binary64) : FailsWith range.Refuses (range.check value) := by
  unfold SetpointRange.check
  split
  · exact .ok _
  · exact .error (.inr ⟨value, rfl⟩)

theorem failsWith_optionalTemperature (key : String) :
    FailsWith range.Refuses (p.optionalTemperature key) :=
  (p.invalid_optionalTemperature key).mono fun _ => .inl

theorem failsWith_targetArgument : FailsWith range.Refuses (targetArgument p range) := by
  refine (failsWith_optionalTemperature p range _).bind ?_
  intro asked
  cases asked with
  | none => exact .ok _
  | some t => exact (failsWith_check range _).bind fun _ => .ok _

theorem failsWith_pairArgument : FailsWith range.Refuses (pairArgument p range) := by
  refine (failsWith_optionalTemperature p range _).bind fun lower => ?_
  refine (failsWith_optionalTemperature p range _).bind fun upper => ?_
  cases lower with
  | none =>
    cases upper with
    | none => exact .ok _
    | some t => exact .error (.inr ⟨_, rfl⟩)
  | some low =>
    cases upper with
    | none => exact .error (.inr ⟨_, rfl⟩)
    | some high =>
      refine (failsWith_check range _).bind fun low => ?_
      refine (failsWith_check range _).bind fun high => ?_
      simp only
      split
      · exact .error (.inr ⟨_, rfl⟩)
      · exact .ok _

theorem failsWith_setpointsOutcome (setpoints : List (Setpoint × Binary64)) :
    FailsWith range.Refuses (if setpoints.isEmpty then .error Refusal.withoutSetpoint
      else .ok (setpointOutcome s setpoints)) := by
  split
  · exact .error (.inl trivial)
  · exact .ok _

end Setpoints

/-- A payload of setpoints is invalid, or asks for a value outside the range. -/
theorem failsWith_setTargetTemperature :
    FailsWith (SetpointRange.ofEntity s.entity s.unit).Refuses (setTargetTemperature s) := by
  refine (failsWith_targetArgument _ _).bind fun target => ?_
  refine (failsWith_pairArgument _ _).bind fun pair => ?_
  exact failsWith_setpointsOutcome s _ _

theorem invalid_modeArgument (p : Payload) : FailsWith Refusal.Invalid (modeArgument p) := by
  refine (p.invalid_require _).bind ?_
  intro j
  split
  · exact .ok _
  · split
    · exact .ok _
    · exact .error trivial
  · exact .error trivial

theorem blaming_modeArgument (p : Payload) : Blaming (modeArgument p) :=
  (invalid_modeArgument p).mono fun _ => Refusal.Invalid.blames

/-- Only a cover that has no position has no current percentage. -/
theorem failsWith_currentPercentage {sort : Refusal → Prop}
    (internal : s.entity.domain = .cover → s.entity.attributes.int? Key.currentPosition = none →
      s.entity.attributes.int? Key.position = none → ∀ fault, sort (.internal fault)) :
    FailsWith sort (currentPercentage s) := by
  unfold currentPercentage
  split
  · next cover =>
    simp only
    split
    · exact .ok _
    · exact .ok _
    · next fault failed none =>
      have noCurrent := Attributes.require_eq_error_iff.1 ⟨fault, failed⟩
      exact .error (internal cover noCurrent none _)
  · exact .ok _
  · exact .ok _

theorem internal_currentPercentage (cover : s.entity.domain = .cover)
    (noCurrent : s.entity.attributes.int? Key.currentPosition = none)
    (none : s.entity.attributes.int? Key.position = none) :
    ∃ fault, currentPercentage s = .error (.internal fault) := by
  obtain ⟨fault, failed⟩ := Attributes.require_eq_error_iff.2 noCurrent
  refine ⟨.attribute s.entity.id fault, ?_⟩
  unfold currentPercentage
  rw [cover]
  simp only
  rw [Attributes.requireInt, failed, none]
  rfl

/-! ## What entities lack -/

/-- The entity lacks an attribute that a directive of a kind cannot do without. -/
inductive Lacks (s : Situation) : DirectiveKind → Prop
  | colder (missing : s.entity.attributes.int? Key.colorTemperature = none ∨
      s.entity.attributes.int? Key.minMireds = none) : Lacks s .increaseColorTemperature
  | warmer (missing : s.entity.attributes.int? Key.colorTemperature = none ∨
      s.entity.attributes.int? Key.maxMireds = none) : Lacks s .decreaseColorTemperature
  | position {delta : Int64} (asked : s.payload.requireInt "percentageDelta" = .ok delta)
      (cover : s.entity.domain = .cover)
      (missing : s.entity.attributes.int? Key.currentPosition = none ∧
        s.entity.attributes.int? Key.position = none) : Lacks s .adjustPercentage
  | temperature {delta : Temperature}
      (asked : s.payload.requireTemperature "targetSetpointDelta" = .ok delta)
      (missing : s.entity.attributes.number? Key.temperature = none) :
      Lacks s .adjustTargetTemperature
  | volume {delta : Int64} (asked : s.payload.requireInt "volume" = .ok delta)
      (missing : s.entity.attributes.number? Key.volumeLevel = none) : Lacks s .adjustVolume
  | sources {requested : String} (asked : s.payload.requireText "input" = .ok requested)
      (missing : s.entity.attributes.texts? Key.sourceList = none) : Lacks s .selectInput

theorem Lacks.route {s : Situation} {k : DirectiveKind} (lacks : Lacks s k) :
    ∃ judge, k.route = .control judge := by
  cases lacks <;> exact ⟨_, rfl⟩

/-- A refusal that blames the request, or is for an internal fault that the entity has. -/
def Justified (k : DirectiveKind) (r : Refusal) : Prop :=
  r.Blames ∨ r.Internal ∧ Lacks s k

/-- Every refusal is justified. -/
theorem justified_decide {k : DirectiveKind} {judge : Situation → Except Refusal Outcome}
    (route : k.route = .control judge) : FailsWith (Justified s k) (judge s) := by
  have plain {α : Type} {x : Except Refusal α} (h : Blaming x) : FailsWith (Justified s k) x :=
    h.mono fun _ => .inl
  have lacking (lacks : Lacks s k) (fault : InternalFault) : Justified s k (.internal fault) :=
    .inr ⟨trivial, lacks⟩
  have int := s.payload.blaming_requireInt
  have field {α : Type} (view : Json → Option α) (p : Payload) (key : String) :=
    p.blaming_requireAs key view
  cases k <;> cases route
  case turnOn | turnOff | lock | unlock | activate | play | pause | stop | next | previous =>
    exact .ok _
  case setBrightness => exact plain ((s.blaming_percentArgument _).map _)
  case adjustBrightness => exact plain ((int _).map _)
  case setColor =>
    refine plain ((field _ _ _).bind fun color => ?_)
    refine (field _ _ _).bind fun hue => ?_
    refine (field _ _ _).bind fun saturation => ?_
    refine (field _ _ _).bind fun brightness => ?_
    exact (FailsWith.mapError fun _ => trivial).bind fun rgb => .ok _
  case setColorTemperature =>
    refine plain ((int _).bind fun kelvin => ?_)
    exact (FailsWith.mapError fun _ => trivial).bind fun mireds =>
      blaming_colorTemperatureOutcome s mireds
  case increaseColorTemperature =>
    refine (s.failsWith_needs fun none => lacking (.colder (.inl none))).bind fun current => ?_
    refine (s.failsWith_needs fun none => lacking (.colder (.inr none))).bind fun least => ?_
    exact plain (blaming_colorTemperatureOutcome s _)
  case decreaseColorTemperature =>
    refine (s.failsWith_needs fun none => lacking (.warmer (.inl none))).bind fun current => ?_
    refine (s.failsWith_needs fun none => lacking (.warmer (.inr none))).bind fun greatest => ?_
    exact plain (blaming_colorTemperatureOutcome s _)
  case setPercentage =>
    exact plain ((s.blaming_percentArgument _).bind fun percentage =>
      blaming_percentageOutcome s _)
  case adjustPercentage =>
    refine (plain (int _)).bind_of_ok fun delta asked => ?_
    refine FailsWith.bind ?_ fun current => plain (blaming_percentageOutcome s _)
    exact failsWith_currentPercentage s fun cover noCurrent none =>
      lacking (.position asked cover ⟨noCurrent, none⟩)
  case setTargetTemperature =>
    exact plain ((failsWith_setTargetTemperature s).mono fun _ => SetpointRange.Refuses.blames)
  case adjustTargetTemperature =>
    refine (plain (field _ _ _)).bind_of_ok fun delta asked => ?_
    refine (s.failsWith_needs fun none => lacking (.temperature asked none)).bind fun current => ?_
    refine plain (FailsWith.bind ?_ fun value => .ok _)
    exact (failsWith_check _ _).mono fun _ => SetpointRange.Refuses.blames
  case setThermostatMode =>
    refine plain ((blaming_modeArgument _).bind fun requested => ?_)
    simp only
    split
    · exact .ok _
    · exact .error trivial
  case deactivate =>
    unfold deactivate
    split
    · exact .ok _
    · exact plain (.error trivial)
  case setVolume => exact plain ((s.blaming_percentArgument _).map _)
  case adjustVolume =>
    refine (plain (int _)).bind_of_ok fun delta asked => ?_
    exact (s.failsWith_needs fun none => lacking (.volume asked none)).bind fun level => .ok _
  case setMute | stepSetMute => exact plain ((field _ _ _).map _)
  case stepAdjustVolume => exact plain ((int _).map _)
  case selectInput =>
    refine (plain (field _ _ _)).bind_of_ok fun requested asked => ?_
    cases listed : s.entity.attributes.texts? Key.sourceList with
    | none => exact .error (lacking (.sources asked listed) _)
    | some sources =>
      refine (FailsWith.ok sources).bind fun sources => ?_
      simp only
      split
      · exact .ok _
      · exact plain (.error trivial)

/-- What the entity lacks is told as an internal fault. -/
theorem internal_of_lacks {k : DirectiveKind} {judge : Situation → Except Refusal Outcome}
    (route : k.route = .control judge) (lacks : Lacks s k) :
    ∃ fault, judge s = .error (.internal fault) := by
  cases lacks with
  | colder missing | warmer missing =>
    cases route
    exact s.internal_needs_bind (missing.imp_right fun none _ => s.internal_needs_bind (.inl none))
  | position asked cover missing =>
    cases route
    obtain ⟨fault, failed⟩ := internal_currentPercentage s cover missing.1 missing.2
    exact ⟨fault, bind_eq_error.2 (.inr ⟨_, asked, bind_eq_error.2 (.inl failed)⟩)⟩
  | temperature asked missing | volume asked missing =>
    cases route
    obtain ⟨fault, failed⟩ := s.internal_needs_bind (.inl missing)
    exact ⟨fault, bind_eq_error.2 (.inr ⟨_, asked, failed⟩)⟩
  | sources asked missing =>
    cases route
    refine ⟨.attribute s.entity.id (.missing Key.sourceList),
      bind_eq_error.2 (.inr ⟨_, asked, ?_⟩)⟩
    simp only
    rw [missing]
    rfl

/-- A control fails inside exactly when the entity lacks what the directive cannot do without. -/
theorem internal_iff_lacks {k : DirectiveKind} {judge : Situation → Except Refusal Outcome}
    (route : k.route = .control judge) :
    (∃ fault, judge s = .error (.internal fault)) ↔ Lacks s k := by
  constructor
  · rintro ⟨fault, failed⟩
    rcases justified_decide s route _ failed with blames | ⟨-, lacks⟩
    · cases blames
    · exact lacks
  · exact internal_of_lacks s route

/-- No control says that there is no such endpoint. -/
theorem admitting_decide {k : DirectiveKind} {judge : Situation → Except Refusal Outcome}
    (route : k.route = .control judge) : FailsWith Refusal.Admits (judge s) := by
  refine (justified_decide s route).mono ?_
  rintro r (blames | ⟨internal, -⟩)
  · exact blames.admits
  · exact internal.admits

end Control

end HomeVoice
