import HomeVoice.Bridge.Control.Table
import HomeVoice.Protocol.Response
import HomeVoice.Proofs.Fallible

/-!
# What controls decide

`Decided s k o` says that a directive of kind `k` comes to the outcome `o` in the situation `s`. It
has one rule for each way in which a control succeeds, with what the payload and the entity must
give for it, and `decided_of_ok` says that there are no other ways. What holds of all outcomes is
proved from the rules.
-/

namespace HomeVoice.Control

/-- The outcome of setting the color temperature, in mireds, which are reported as kelvins. -/
def whiteOutcome (s : Situation) (mireds kelvin : Int64) : Outcome :=
  (Outcome.respond ((s.call "turn_on").withData Key.colorTemperature (.ofInt64 mireds))).withReading
    .colorTemperature "colorTemperatureInKelvin" (.ofInt64 kelvin)

/-- The outcome of setting a percentage by a call. -/
def percentageAnswer (call : ServiceCall) (percentage : Int64) : Outcome :=
  (Outcome.respond call).withReading .percentage "percentage" (.ofInt64 percentage)

/-- The setpoints that are set for a target and a pair of bounds. -/
def setpointsOf (target : Option Binary64) (pair : Option (Binary64 × Binary64)) :
    List (Setpoint × Binary64) :=
  (target.map fun value => (Setpoint.target, value)).toList ++
    (match pair with
    | some (low, high) => [(.lower, low), (.upper, high)]
    | none => [])

/-- The value that a target and a pair of bounds give for a setpoint. -/
def Setpoint.given (target : Option Binary64) (pair : Option (Binary64 × Binary64)) :
    Setpoint → Option Binary64
  | .target => target
  | .lower => pair.map Prod.fst
  | .upper => pair.map Prod.snd

/-- The data of a call that sets setpoints. -/
def setpointData (setpoints : List (Setpoint × Binary64)) : Dict Json :=
  setpoints.foldl (fun data setpoint => data.insert setpoint.1.key (.ofNumber setpoint.2)) []

/-- The outcome of setting the power state. -/
def powerOutcome (s : Situation) (state : PowerState) : Outcome :=
  (Outcome.respond (powerCall s.entity state)).withReading .power "powerState" (.str state.name)

/-- What a directive comes to when it is not refused. -/
inductive Decided (s : Situation) : DirectiveKind → Outcome → Prop
  | turnOn : Decided s .turnOn (powerOutcome s .on)
  | turnOff : Decided s .turnOff (powerOutcome s .off)
  | setBrightness {percent : Int64}
      (asked : s.percentArgument "brightness" = .ok percent) :
      Decided s .setBrightness (brightnessOutcome s percent)
  | adjustBrightness {delta : Int64}
      (asked : s.payload.requireInt "brightnessDelta" = .ok delta) :
      Decided s .adjustBrightness (brightnessOutcome s
        (Percent.adjustBrightness ((s.entity.attributes.number? Key.brightness).getD 0) delta))
  | setColor {color : Payload} {hue saturation brightness : Binary64} {rgb : RgbColor}
      (asked : s.payload.requireObject "color" = .ok color)
      (askedHue : color.requireNumber "hue" = .ok hue)
      (askedSaturation : color.requireNumber "saturation" = .ok saturation)
      (askedBrightness : color.requireNumber "brightness" = .ok brightness)
      (converted : Color.ofHsb hue saturation brightness = .ok rgb) :
      Decided s .setColor
        ((Outcome.respond ((s.call "turn_on").withData Key.rgbColor (colorJson rgb))).withReading
          .color "color" (.obj color.fields))
  | setColorTemperature {asked mireds kelvin : Int64}
      (argument : s.payload.requireInt "colorTemperatureInKelvin" = .ok asked)
      (converted : Color.kelvinToMired asked = .ok mireds)
      (back : Color.miredToKelvin (.ofInt64 mireds) = .ok kelvin) :
      Decided s .setColorTemperature (whiteOutcome s mireds kelvin)
  | increaseColorTemperature {current least kelvin : Int64}
      (now : s.entity.attributes.requireInt Key.colorTemperature = .ok current)
      (bound : s.entity.attributes.requireInt Key.minMireds = .ok least)
      (back : Color.miredToKelvin
        (.ofInt64 (max least (.ofIntClamp (current.toInt - miredStep)))) = .ok kelvin) :
      Decided s .increaseColorTemperature
        (whiteOutcome s (max least (.ofIntClamp (current.toInt - miredStep))) kelvin)
  | decreaseColorTemperature {current greatest kelvin : Int64}
      (now : s.entity.attributes.requireInt Key.colorTemperature = .ok current)
      (bound : s.entity.attributes.requireInt Key.maxMireds = .ok greatest)
      (back : Color.miredToKelvin
        (.ofInt64 (min greatest (.ofIntClamp (current.toInt + miredStep)))) = .ok kelvin) :
      Decided s .decreaseColorTemperature
        (whiteOutcome s (min greatest (.ofIntClamp (current.toInt + miredStep))) kelvin)
  | setPercentage {percentage : Int64} {call : ServiceCall}
      (asked : s.percentArgument "percentage" = .ok percentage)
      (made : percentageCall s percentage = .ok call) :
      Decided s .setPercentage (percentageAnswer call percentage)
  | adjustPercentage {delta current : Int64} {call : ServiceCall}
      (asked : s.payload.requireInt "percentageDelta" = .ok delta)
      (now : currentPercentage s = .ok current)
      (made : percentageCall s (Percent.shift current delta) = .ok call) :
      Decided s .adjustPercentage (percentageAnswer call (Percent.shift current delta))
  | setTargetTemperature {target : Option Binary64} {pair : Option (Binary64 × Binary64)}
      (askedTarget : targetArgument s.payload (.ofEntity s.entity s.unit) = .ok target)
      (askedPair : pairArgument s.payload (.ofEntity s.entity s.unit) = .ok pair)
      (some_asked : setpointsOf target pair ≠ []) :
      Decided s .setTargetTemperature (setpointOutcome s (setpointsOf target pair))
  | adjustTargetTemperature {delta : Temperature} {current value : Binary64}
      (asked : s.payload.requireTemperature "targetSetpointDelta" = .ok delta)
      (now : s.entity.attributes.requireNumber Key.temperature = .ok current)
      (inRange : (SetpointRange.ofEntity s.entity s.unit).check
        (current + delta.intervalToUnit s.unit) = .ok value) :
      Decided s .adjustTargetTemperature (setpointOutcome s [(.target, value)])
  | setThermostatMode {requested mode : String}
      (asked : modeArgument s.payload = .ok requested)
      (chosen : ThermostatMode.choose?
        ((s.entity.attributes.texts? Key.operationList).getD []) requested = some mode) :
      Decided s .setThermostatMode
        ((Outcome.respond ((s.call "set_operation_mode").withData Key.operationMode
          (.str mode))).withReading .thermostat "thermostatMode" (.str requested))
  | lock : Decided s .lock
      ((Outcome.respond (s.call "lock")).withReading .lock "lockState" (.str LockState.locked.name))
  | unlock : Decided s .unlock
      ((Outcome.respond (s.call "unlock")).withReading .lock "lockState"
        (.str LockState.unlocked.name))
  | activate : Decided s .activate (started "ActivationStarted" s "turn_on")
  | deactivate (script : s.entity.domain = .script) :
      Decided s .deactivate (started "DeactivationStarted" s "turn_off")
  | setVolume {percent : Int64}
      (asked : s.percentArgument "volume" = .ok percent) :
      Decided s .setVolume (volumeOutcome s (Percent.toVolumeLevel percent))
  | adjustVolume {delta : Int64} {level : Binary64}
      (asked : s.payload.requireInt "volume" = .ok delta)
      (now : s.entity.attributes.requireNumber Key.volumeLevel = .ok level) :
      Decided s .adjustVolume (volumeOutcome s (Percent.adjustVolumeLevel level delta))
  | setMute {mute : Bool} (asked : s.payload.requireBool "mute" = .ok mute) :
      Decided s .setMute
        ((Outcome.respond (muteCall s mute)).withReading .speaker "muted" (.bool mute))
  | stepNone (asked : s.payload.requireInt "volumeSteps" = .ok 0) :
      Decided s .stepAdjustVolume .idle
  | stepUp {steps : Int64} (asked : s.payload.requireInt "volumeSteps" = .ok steps)
      (positive : 0 < steps) : Decided s .stepAdjustVolume (.respond (s.call "volume_up"))
  | stepDown {steps : Int64} (asked : s.payload.requireInt "volumeSteps" = .ok steps)
      (negative : steps < 0) : Decided s .stepAdjustVolume (.respond (s.call "volume_down"))
  | stepSetMute {mute : Bool} (asked : s.payload.requireBool "mute" = .ok mute) :
      Decided s .stepSetMute (.respond (muteCall s mute))
  | play : Decided s .play (.respond (s.call "media_play"))
  | pause : Decided s .pause (.respond (s.call "media_pause"))
  | stop : Decided s .stop (.respond (s.call "media_stop"))
  | next : Decided s .next (.respond (s.call "media_next_track"))
  | previous : Decided s .previous (.respond (s.call "media_previous_track"))
  | selectInput {requested source : String} {sources : List String}
      (asked : s.payload.requireText "input" = .ok requested)
      (listed : s.entity.attributes.texts? Key.sourceList = some sources)
      (chosen : chooseSource? sources requested = some source) :
      Decided s .selectInput
        (.respond ((s.call "select_source").withData Key.source (.str source)))

theorem colorTemperatureOutcome_eq_ok {s : Situation} {mireds : Int64} {o : Outcome} :
    colorTemperatureOutcome s mireds = .ok o ↔
      ∃ kelvin, Color.miredToKelvin (.ofInt64 mireds) = .ok kelvin ∧
        whiteOutcome s mireds kelvin = o := by
  simp [colorTemperatureOutcome, map_eq_ok, mapError_eq_ok, whiteOutcome]

theorem percentageOutcome_eq_ok {s : Situation} {percentage : Int64} {o : Outcome} :
    percentageOutcome s percentage = .ok o ↔
      ∃ call, percentageCall s percentage = .ok call ∧ percentageAnswer call percentage = o := by
  simp [percentageOutcome, map_eq_ok, percentageAnswer]

theorem needs_eq_ok {α : Type} {s : Situation} {read : Except AttributeFault α} {a : α} :
    s.needs read = .ok a ↔ read = .ok a :=
  mapError_eq_ok

/-- A control that is not refused decides by one of the rules. -/
theorem decided_of_ok {k : DirectiveKind} {judge : Situation → Except Refusal Outcome}
    (route : k.route = .control judge) {s : Situation} {o : Outcome} (h : judge s = .ok o) :
    Decided s k o := by
  cases k <;> simp only [DirectiveKind.route, Route.control.injEq, reduceCtorEq] at route <;>
    subst route
  case turnOn => cases h; exact .turnOn
  case turnOff => cases h; exact .turnOff
  case setBrightness =>
    obtain ⟨percent, asked, rfl⟩ := map_eq_ok.1 h
    exact .setBrightness asked
  case adjustBrightness =>
    obtain ⟨delta, asked, rfl⟩ := map_eq_ok.1 h
    exact .adjustBrightness asked
  case setColor =>
    obtain ⟨color, asked, h⟩ := bind_eq_ok.1 h
    obtain ⟨hue, askedHue, h⟩ := bind_eq_ok.1 h
    obtain ⟨saturation, askedSaturation, h⟩ := bind_eq_ok.1 h
    obtain ⟨brightness, askedBrightness, h⟩ := bind_eq_ok.1 h
    obtain ⟨rgb, converted, h⟩ := bind_eq_ok.1 h
    cases h
    exact .setColor asked askedHue askedSaturation askedBrightness (mapError_eq_ok.1 converted)
  case setColorTemperature =>
    obtain ⟨asked, argument, h⟩ := bind_eq_ok.1 h
    obtain ⟨mireds, converted, h⟩ := bind_eq_ok.1 h
    obtain ⟨kelvin, back, rfl⟩ := colorTemperatureOutcome_eq_ok.1 h
    exact .setColorTemperature argument (mapError_eq_ok.1 converted) back
  case increaseColorTemperature =>
    obtain ⟨current, now, h⟩ := bind_eq_ok.1 h
    obtain ⟨least, bound, h⟩ := bind_eq_ok.1 h
    obtain ⟨kelvin, back, rfl⟩ := colorTemperatureOutcome_eq_ok.1 h
    exact .increaseColorTemperature (needs_eq_ok.1 now) (needs_eq_ok.1 bound) back
  case decreaseColorTemperature =>
    obtain ⟨current, now, h⟩ := bind_eq_ok.1 h
    obtain ⟨greatest, bound, h⟩ := bind_eq_ok.1 h
    obtain ⟨kelvin, back, rfl⟩ := colorTemperatureOutcome_eq_ok.1 h
    exact .decreaseColorTemperature (needs_eq_ok.1 now) (needs_eq_ok.1 bound) back
  case setPercentage =>
    obtain ⟨percentage, asked, h⟩ := bind_eq_ok.1 h
    obtain ⟨call, made, rfl⟩ := percentageOutcome_eq_ok.1 h
    exact .setPercentage asked made
  case adjustPercentage =>
    obtain ⟨delta, asked, h⟩ := bind_eq_ok.1 h
    obtain ⟨current, now, h⟩ := bind_eq_ok.1 h
    obtain ⟨call, made, rfl⟩ := percentageOutcome_eq_ok.1 h
    exact .adjustPercentage asked now made
  case setTargetTemperature =>
    obtain ⟨target, askedTarget, h⟩ := bind_eq_ok.1 h
    obtain ⟨pair, askedPair, h⟩ := bind_eq_ok.1 h
    replace h : (if (setpointsOf target pair).isEmpty then .error Refusal.withoutSetpoint
        else .ok (setpointOutcome s (setpointsOf target pair))) = Except.ok o := h
    split at h
    · cases h
    · next notEmpty =>
      cases h
      exact .setTargetTemperature askedTarget askedPair fun empty => notEmpty (by simp [empty])
  case adjustTargetTemperature =>
    obtain ⟨delta, asked, h⟩ := bind_eq_ok.1 h
    obtain ⟨current, now, h⟩ := bind_eq_ok.1 h
    obtain ⟨value, inRange, h⟩ := bind_eq_ok.1 h
    cases h
    exact .adjustTargetTemperature asked (needs_eq_ok.1 now) inRange
  case setThermostatMode =>
    obtain ⟨requested, asked, h⟩ := bind_eq_ok.1 h
    simp only at h
    split at h
    · next mode chosen => cases h; exact .setThermostatMode asked chosen
    · cases h
  case lock => cases h; exact .lock
  case unlock => cases h; exact .unlock
  case activate => cases h; exact .activate
  case deactivate =>
    simp only [deactivate] at h
    split at h
    · next script => cases h; exact .deactivate script
    · cases h
  case setVolume =>
    obtain ⟨percent, asked, rfl⟩ := map_eq_ok.1 h
    exact .setVolume asked
  case adjustVolume =>
    obtain ⟨delta, asked, h⟩ := bind_eq_ok.1 h
    obtain ⟨level, now, h⟩ := bind_eq_ok.1 h
    cases h
    exact .adjustVolume asked (needs_eq_ok.1 now)
  case setMute =>
    obtain ⟨mute, asked, rfl⟩ := map_eq_ok.1 h
    exact .setMute asked
  case stepAdjustVolume =>
    obtain ⟨steps, asked, rfl⟩ := map_eq_ok.1 h
    split
    · next zero => exact .stepNone (zero ▸ asked)
    · next nonzero =>
      split
      · next positive => exact .stepUp asked positive
      · next notPositive => exact .stepDown asked (by grind)
  case stepSetMute =>
    obtain ⟨mute, asked, rfl⟩ := map_eq_ok.1 h
    exact .stepSetMute asked
  case play => cases h; exact .play
  case pause => cases h; exact .pause
  case stop => cases h; exact .stop
  case next => cases h; exact .next
  case previous => cases h; exact .previous
  case selectInput =>
    obtain ⟨requested, asked, h⟩ := bind_eq_ok.1 h
    simp only at h
    split at h
    · next sources listed =>
      obtain ⟨_, ok, h⟩ := bind_eq_ok.1 h
      cases ok
      split at h
      · next source chosen => cases h; exact .selectInput asked listed chosen
      · cases h
    · next => obtain ⟨_, none, _⟩ := bind_eq_ok.1 h; cases none

/-- The domain of the services that switch an entity. -/
def switchingDomain (e : Entity) : String :=
  if e.domain = .group then ServiceCall.genericDomain else e.id.domainName

theorem powerCall_target (e : Entity) (state : PowerState) : (powerCall e state).target = e.id := by
  unfold powerCall
  split <;> rfl

theorem powerCall_data (e : Entity) (state : PowerState) : (powerCall e state).data = [] := by
  unfold powerCall
  split <;> rfl

theorem powerCall_domain (e : Entity) (state : PowerState) :
    (powerCall e state).domain = switchingDomain e := by
  unfold powerCall switchingDomain
  cases h : e.domain <;> cases state <;> rfl

theorem percentageCall_own {s : Situation} {percentage : Int64} {c : ServiceCall}
    (h : percentageCall s percentage = .ok c) :
    c.target = s.entity.id ∧ c.domain = s.entity.id.domainName := by
  unfold percentageCall at h
  split at h
  · cases h; exact ⟨rfl, rfl⟩
  · cases h; exact ⟨rfl, rfl⟩
  · cases h

/-- Setpoints are set by one call that carries all of them. -/
theorem setpointOutcome_call (s : Situation) (setpoints : List (Setpoint × Binary64)) :
    (setpointOutcome s setpoints).call =
      some { s.call "set_temperature" with data := setpointData setpoints } := by
  have collected (c : ServiceCall) :
      setpoints.foldl (fun c setpoint => c.withData setpoint.1.key (.ofNumber setpoint.2)) c =
        ⟨c.domain, c.service, c.target, setpoints.foldl
          (fun data setpoint => data.insert setpoint.1.key (.ofNumber setpoint.2)) c.data⟩ := by
    induction setpoints generalizing c with
    | nil => rfl
    | cons head rest ih => exact ih (c.withData head.1.key (.ofNumber head.2))
  exact congrArg some (collected _)

theorem setpointOutcome_call_own {s : Situation} {setpoints : List (Setpoint × Binary64)}
    {c : ServiceCall} (h : (setpointOutcome s setpoints).call = some c) :
    c.target = s.entity.id ∧ c.domain = s.entity.id.domainName := by
  rw [setpointOutcome_call] at h
  cases h
  exact ⟨rfl, rfl⟩

theorem Setpoint.key_injective {p p' : Setpoint} (h : p.key = p'.key) : p = p' := by
  revert h
  cases p <;> cases p' <;> decide

/-- The data of distinct setpoints has the value of each under its key. -/
theorem get?_setpointData {setpoints : List (Setpoint × Binary64)}
    (distinct : (setpoints.map Prod.fst).Nodup) (p : Setpoint) :
    (setpointData setpoints).get? p.key = (setpoints.lookup p).map Json.ofNumber := by
  have collected (data : Dict Json) : (setpoints.foldl
      (fun data setpoint => data.insert setpoint.1.key (.ofNumber setpoint.2)) data).get? p.key =
        ((setpoints.lookup p).map Json.ofNumber).or (data.get? p.key) := by
    induction setpoints generalizing data with
    | nil => rfl
    | cons head rest ih =>
      obtain ⟨p', value⟩ := head
      obtain ⟨new, distinct⟩ := List.nodup_cons.1 distinct
      rw [List.foldl_cons, ih distinct, List.lookup_cons]
      by_cases same : p = p'
      · subst same
        have absent : rest.lookup p = none := by
          rw [List.lookup_eq_none_iff]
          intro entry member
          have fresh : p ≠ entry.1 := by
            intro same
            exact new (List.mem_map.2 ⟨entry, member, same.symm⟩)
          exact bne_iff_ne.2 fresh
        rw [absent, beq_self_eq_true, Dict.get?_insert_self]
        rfl
      · rw [beq_false_of_ne same,
          Dict.get?_insert_of_ne fun same' => same (Setpoint.key_injective same')]
  exact (collected []).trans (Option.or_none)

theorem nodup_setpointsOf (target : Option Binary64) (pair : Option (Binary64 × Binary64)) :
    ((setpointsOf target pair).map Prod.fst).Nodup := by
  cases target <;> cases pair <;> simp [setpointsOf]

theorem lookup_setpointsOf (target : Option Binary64) (pair : Option (Binary64 × Binary64))
    (p : Setpoint) : (setpointsOf target pair).lookup p = p.given target pair := by
  cases target <;> cases pair <;> cases p <;> rfl

theorem mem_setpointsOf {target : Option Binary64} {pair : Option (Binary64 × Binary64)}
    {p : Setpoint} {value : Binary64} (h : (p, value) ∈ setpointsOf target pair) :
    p.given target pair = some value := by
  cases target <;> cases pair <;> simp [setpointsOf] at h <;> grind [Setpoint.given]

/-- The data of setpoints is made of them. -/
theorem mem_setpointData {setpoints : List (Setpoint × Binary64)} {key : String} {value : Json} :
    (key, value) ∈ setpointData setpoints →
      ∃ p x, (p, x) ∈ setpoints ∧ key = Setpoint.key p ∧ value = .ofNumber x := by
  have collected (data : Dict Json) (h : (key, value) ∈ setpoints.foldl
      (fun data setpoint => data.insert setpoint.1.key (.ofNumber setpoint.2)) data) :
      (∃ p x, (p, x) ∈ setpoints ∧ key = Setpoint.key p ∧ value = .ofNumber x) ∨
        (key, value) ∈ data := by
    induction setpoints generalizing data with
    | nil => exact .inr h
    | cons head rest ih =>
      rcases ih _ h with ⟨p, x, member, same⟩ | member
      · exact .inl ⟨p, x, List.mem_cons_of_mem _ member, same⟩
      · rcases Dict.mem_insert member with same | member
        · cases same
          exact .inl ⟨head.1, head.2, List.mem_cons_self, rfl, rfl⟩
        · exact .inr member
  intro h
  exact (collected [] h).resolve_right List.not_mem_nil

/-- A control calls a service on the entity of the situation and on no other. -/
theorem Decided.target {s : Situation} {k : DirectiveKind} {o : Outcome} (h : Decided s k o)
    {c : ServiceCall} (hc : o.call = some c) : c.target = s.entity.id := by
  cases h with
  | turnOn | turnOff => cases hc; exact powerCall_target _ _
  | setPercentage _ made => cases hc; exact (percentageCall_own made).1
  | adjustPercentage _ _ made => cases hc; exact (percentageCall_own made).1
  | setTargetTemperature | adjustTargetTemperature => exact (setpointOutcome_call_own hc).1
  | stepNone => cases hc
  | _ => cases hc; rfl

/-- Only switching an entity on or off calls a service outside of the domain of the entity. -/
theorem Decided.domain {s : Situation} {k : DirectiveKind} {o : Outcome} (h : Decided s k o)
    {c : ServiceCall} (hc : o.call = some c) :
    c.domain =
      if k = .turnOn ∨ k = .turnOff then switchingDomain s.entity else s.entity.id.domainName := by
  cases h with
  | turnOn | turnOff => cases hc; simp [powerCall_domain]
  | setPercentage _ made => cases hc; simp [(percentageCall_own made).2]
  | adjustPercentage _ _ made => cases hc; simp [(percentageCall_own made).2]
  | setTargetTemperature | adjustTargetTemperature => simp [(setpointOutcome_call_own hc).2]
  | stepNone => cases hc
  | _ => cases hc; rfl

/-- A control that calls nothing says nothing either. -/
theorem Decided.readings_of_uncalled {s : Situation} {k : DirectiveKind} {o : Outcome}
    (h : Decided s k o) (uncalled : o.call = none) : o.readings = [] := by
  cases h with
  | stepNone => rfl
  | setTargetTemperature | adjustTargetTemperature =>
    rw [setpointOutcome_call] at uncalled
    cases uncalled
  | _ => cases uncalled

/-- The names that answers to control have. -/
theorem Decided.name {s : Situation} {k : DirectiveKind} {o : Outcome} (h : Decided s k o) :
    o.name = "Response" ∨ o.name = "ActivationStarted" ∨ o.name = "DeactivationStarted" := by
  cases h with
  | activate => exact .inr (.inl rfl)
  | deactivate => exact .inr (.inr rfl)
  | _ => exact .inl rfl

/-- The answer to a control that is not refused is no error. -/
theorem Decided.name_ne {s : Situation} {k : DirectiveKind} {o : Outcome} (h : Decided s k o) :
    o.name ≠ Response.errorName := by
  rcases h.name with name | name | name <;> simp [name, Response.errorName]

end HomeVoice.Control
