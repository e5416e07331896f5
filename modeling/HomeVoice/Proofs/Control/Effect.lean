import HomeVoice.Proofs.Control.Checked
import HomeVoice.Proofs.Discovery.Endpoint
import HomeVoice.Proofs.Hub.Service
import HomeVoice.Proofs.Measure.SpeedTable

/-!
# What controls bring about

A control decides on a call and on the readings that its answer gives, and the hub serves the call.
`Control.Effect` says with one rule for each way in which entities are controlled what the entity is
then and what the answer has said about it. `Control.Decided.effect` says that the hub serves every
call that is decided on for an endpoint which accepts the directive, and that it does so by one of
these rules. What holds of answers and of entities that are controlled is proved from the rules.
-/

namespace HomeVoice

theorem Json.int64?_ofInt64 (n : Int64) : (ofInt64 n).int64? = some n := by
  have fits : fitsInt64 n.toInt = true := by
    have lowest := n.minValue_le_toInt
    have highest := n.toInt_le
    simp only [fitsInt64, Bool.and_eq_true, decide_eq_true_eq]
    exact ⟨lowest, highest⟩
  show (if fitsInt64 n.toInt then some (Int64.ofInt n.toInt) else none) = some n
  rw [if_pos fits, Int64.ofInt_toInt]

/-- What is written of a number is a number when it is finite. -/
theorem Json.number?_ofNumber_eq (x : Binary64) :
    (ofNumber x).number? = if x.isFinite then some x else none := by
  unfold ofNumber
  split
  · rfl
  · rfl

theorem Json.number?_ofNumber {x : Binary64} (finite : x.isFinite = true) :
    (ofNumber x).number? = some x := by
  rw [number?_ofNumber_eq, if_pos finite]

theorem ServiceCall.argument_of_view {α : Type} {c : ServiceCall} {key : String}
    {view : Json → Option α} {otherwise : Rejection} {a : α}
    (given : (c.data.get? key).bind view = some a) : c.argument key view otherwise = .ok a := by
  unfold argument
  rw [given]

namespace Entity

variable {e : Entity}

theorem turnedOn_empty (notScene : e.domain ≠ .scene) : e.turnedOn [] = e.withState "on" := by
  unfold turnedOn
  split
  · next scene => exact absurd scene notScene
  · rfl
  · rfl
  · rfl

theorem turnedOn_of_light (light : e.domain = .light) (data : Dict Json) :
    e.turnedOn data =
      (((e.withAttribute? Key.brightness
          ((data.get? Key.brightnessPercent).bind Json.int64? |>.map fun percent =>
            .int (Percent.toBrightness percent))).withAttribute? Key.colorTemperature
          ((data.get? Key.colorTemperature).bind Json.int64? |>.map .int)).withAttribute?
          Key.rgbColor ((data.get? Key.rgbColor).map .ofJson)).withState "on" := by
  unfold turnedOn
  rw [light]

/-! A light takes the one setting along that it is turned on with. -/

theorem turnedOn_brightness (light : e.domain = .light) (percent : Int64) :
    e.turnedOn [(Key.brightnessPercent, .ofInt64 percent)] =
      (e.withAttribute Key.brightness (.int (Percent.toBrightness percent))).withState "on" := by
  have given : (Dict.get? [(Key.brightnessPercent, Json.ofInt64 percent)]
      Key.brightnessPercent).bind Json.int64? = some percent := Json.int64?_ofInt64 percent
  rw [turnedOn_of_light light, given]
  rfl

theorem turnedOn_colorTemperature (light : e.domain = .light) (mireds : Int64) :
    e.turnedOn [(Key.colorTemperature, .ofInt64 mireds)] =
      (e.withAttribute Key.colorTemperature (.int mireds)).withState "on" := by
  have given : (Dict.get? [(Key.colorTemperature, Json.ofInt64 mireds)]
      Key.colorTemperature).bind Json.int64? = some mireds := Json.int64?_ofInt64 mireds
  rw [turnedOn_of_light light, given]
  rfl

theorem turnedOn_color (light : e.domain = .light) (color : Json) :
    e.turnedOn [(Key.rgbColor, color)] =
      (e.withAttribute Key.rgbColor (.ofJson color)).withState "on" := by
  rw [turnedOn_of_light light]
  rfl

theorem serve_of_turn_on {c : ServiceCall} (service : c.service = "turn_on") :
    e.serve c = .ok (e.turnedOn c.data) := by
  unfold serve
  rw [service]
  rfl

theorem serve_of_turn_off {c : ServiceCall} (service : c.service = "turn_off") :
    e.serve c = .ok e.turnedOff := by
  unfold serve
  rw [service]
  rfl

@[simp] theorem state_withAttribute? (e : Entity) (key : String) (value : Option AttributeValue) :
    (e.withAttribute? key value).state = e.state := by
  cases value <;> rfl

@[simp] theorem get?_withAttribute?_self (e : Entity) (key : String)
    (value : Option AttributeValue) :
    (e.withAttribute? key value).attributes.get? key = value.or (e.attributes.get? key) := by
  cases value with
  | none => rfl
  | some value => exact e.get?_withAttribute_self key value

theorem get?_withAttribute?_of_ne (e : Entity) {key other : String} (h : other ≠ key)
    (value : Option AttributeValue) :
    (e.withAttribute? key value).attributes.get? other = e.attributes.get? other := by
  cases value with
  | none => rfl
  | some value => exact e.get?_withAttribute_of_ne h value

end Entity

namespace Control

/-! ## Setpoints at the hub -/

variable {e : Entity} {target : Option Binary64} {pair : Option (Binary64 × Binary64)}

theorem state_withSetpoints (e : Entity) (data : Dict Json) :
    (e.withSetpoints data).state = e.state := by
  simp [Entity.withSetpoints, Entity.setpointKeys]

/-- Finite setpoints arrive as the numbers that they are. -/
theorem number?_setpointData
    (finite : ∀ p value, Setpoint.given target pair p = some value → value.isFinite = true)
    (p : Setpoint) :
    ((setpointData (setpointsOf target pair)).get? p.key).bind Json.number? =
      p.given target pair := by
  rw [get?_setpointData (nodup_setpointsOf target pair), lookup_setpointsOf]
  cases given : p.given target pair with
  | none => rfl
  | some value => exact Json.number?_ofNumber (finite p value given)

/-- A thermostat has the setpoints that it is given, and keeps those that it is not given. -/
theorem get?_withSetpoints
    (finite : ∀ p value, Setpoint.given target pair p = some value → value.isFinite = true)
    (p : Setpoint) :
    (e.withSetpoints (setpointData (setpointsOf target pair))).attributes.get? p.key =
      ((p.given target pair).map .number).or (e.attributes.get? p.key) := by
  have sent := number?_setpointData finite
  have written : e.withSetpoints (setpointData (setpointsOf target pair)) =
      ((e.withAttribute? Setpoint.target.key ((Setpoint.target.given target pair).map .number)
        ).withAttribute? Setpoint.lower.key ((Setpoint.lower.given target pair).map .number)
        ).withAttribute? Setpoint.upper.key ((Setpoint.upper.given target pair).map .number) := by
    rw [← sent .target, ← sent .lower, ← sent .upper]
    rfl
  rw [written]
  cases p with
  | target =>
    rw [Entity.get?_withAttribute?_of_ne _ (by decide),
      Entity.get?_withAttribute?_of_ne _ (by decide), Entity.get?_withAttribute?_self]
  | lower =>
    rw [Entity.get?_withAttribute?_of_ne _ (by decide), Entity.get?_withAttribute?_self,
      Entity.get?_withAttribute?_of_ne _ (by decide)]
  | upper =>
    rw [Entity.get?_withAttribute?_self, Entity.get?_withAttribute?_of_ne _ (by decide),
      Entity.get?_withAttribute?_of_ne _ (by decide)]

theorem get?_withSetpoints_of_ne (data : Dict Json) {key : String}
    (other : ∀ p, key ≠ Setpoint.key p) :
    (e.withSetpoints data).attributes.get? key = e.attributes.get? key := by
  refine (Entity.get?_withAttribute?_of_ne _ (other .upper) _).trans ?_
  refine (Entity.get?_withAttribute?_of_ne _ (other .lower) _).trans ?_
  exact Entity.get?_withAttribute?_of_ne _ (other .target) _

/-! ## What is done and said -/

/-- What an answer says about setpoints. -/
def setpointReadings (unit : TemperatureUnit) (setpoints : List (Setpoint × Binary64)) :
    List Reading :=
  setpoints.map fun setpoint =>
    ⟨.thermostat, setpoint.1.property, Temperature.toJson ⟨setpoint.2, unit.scale⟩⟩

/-- An entity that is controlled, with what the answer says about it, becomes another. -/
inductive Effect (e : Entity) (unit : TemperatureUnit) : List Reading → Entity → Prop
  | kept : Effect e unit [] e
  | on (notCover : e.domain ≠ .cover) (notClimate : e.domain ≠ .climate) :
      Effect e unit [⟨.power, "powerState", .str PowerState.on.name⟩] (e.withState "on")
  | off (notCover : e.domain ≠ .cover) (notClimate : e.domain ≠ .climate) :
      Effect e unit [⟨.power, "powerState", .str PowerState.off.name⟩] (e.withState "off")
  | opened (cover : e.domain = .cover) :
      Effect e unit [⟨.power, "powerState", .str PowerState.on.name⟩]
        ((e.withState "open").withAttribute Key.currentPosition (.int 100))
  | closed (cover : e.domain = .cover) :
      Effect e unit [⟨.power, "powerState", .str PowerState.off.name⟩]
        ((e.withState "closed").withAttribute Key.currentPosition (.int 0))
  | restated {state : String} (plain : e.domain = .script ∨ e.domain = .mediaPlayer) :
      Effect e unit [] (e.withState state)
  | dimmed {percent : Int64} (light : e.domain = .light)
      (percentage : Percent.IsPercentage percent) :
      Effect e unit [⟨.brightness, "brightness", .ofInt64 percent⟩]
        ((e.withAttribute Key.brightness (.int (Percent.toBrightness percent))).withState "on")
  | colored {asked : Json} {rgb : AttributeValue} (light : e.domain = .light) :
      Effect e unit [⟨.color, "color", asked⟩]
        ((e.withAttribute Key.rgbColor rgb).withState "on")
  | whitened {mireds kelvin : Int64} (light : e.domain = .light)
      (back : Color.miredToKelvin (.ofInt64 mireds) = .ok kelvin) :
      Effect e unit [⟨.colorTemperature, "colorTemperatureInKelvin", .ofInt64 kelvin⟩]
        ((e.withAttribute Key.colorTemperature (.int mireds)).withState "on")
  | moved {position : Int64} (cover : e.domain = .cover)
      (percentage : Percent.IsPercentage position) :
      Effect e unit [⟨.percentage, "percentage", .ofInt64 position⟩]
        ((e.withState (if 0 < position then "open" else "closed")).withAttribute
          Key.currentPosition (.int position))
  | sped {percentage : Int64} (fan : e.domain = .fan) :
      Effect e unit [⟨.percentage, "percentage", .ofInt64 percentage⟩]
        ((e.withState (if e.speedTable.speedFor percentage = SpeedTable.off then "off" else "on")
          ).withAttribute Key.speed (.text (e.speedTable.speedFor percentage)))
  | heated {target : Option Binary64} {pair : Option (Binary64 × Binary64)}
      (climate : e.domain = .climate)
      (allowed : (SetpointRange.ofEntity e unit).Allows target pair)
      (finite : ∀ p value, Setpoint.given target pair p = some value → value.isFinite = true) :
      Effect e unit (setpointReadings unit (setpointsOf target pair))
        (e.withSetpoints (setpointData (setpointsOf target pair)))
  | moded {requested mode : String} {modes : List String} (climate : e.domain = .climate)
      (reported : ThermostatMode.reported? mode = some requested)
      (listed : e.attributes.texts? Key.operationList = some modes) (member : mode ∈ modes) :
      Effect e unit [⟨.thermostat, "thermostatMode", .str requested⟩]
        ((e.withState mode).withAttribute Key.operationMode (.text mode))
  | locked (lock : e.domain = .lock) :
      Effect e unit [⟨.lock, "lockState", .str LockState.locked.name⟩] (e.withState "locked")
  | unlocked (lock : e.domain = .lock) :
      Effect e unit [⟨.lock, "lockState", .str LockState.unlocked.name⟩] (e.withState "unlocked")
  | loud {n : Int64} (player : e.domain = .mediaPlayer) :
      Effect e unit
        [⟨.speaker, "volume", .ofInt64 (Percent.ofVolumeLevel (Percent.toVolumeLevel n))⟩]
        (e.withVolume (Percent.toVolumeLevel n))
  | stepped {level : Binary64} (player : e.domain = .mediaPlayer) :
      Effect e unit [] (e.withVolume level)
  | muted {muted : Bool} {readings : List Reading} (player : e.domain = .mediaPlayer)
      (said : ∀ r ∈ readings, r = ⟨.speaker, "muted", .bool muted⟩) :
      Effect e unit readings (e.withAttribute Key.volumeMuted (.flag muted))
  | selected {source : String} (player : e.domain = .mediaPlayer) :
      Effect e unit [] (e.withAttribute Key.source (.text source))

variable {s : Situation} {c : ServiceCall}

theorem effect_of_powerCall (state : PowerState)
    (possible : s.entity.domain ∈ Interface.power.domains) :
    ∃ e', s.entity.serve (powerCall s.entity state) = .ok e' ∧
      Effect s.entity s.unit (powerOutcome s state).readings e' := by
  have notClimate : s.entity.domain ≠ .climate := by
    intro climate
    rw [climate] at possible
    revert possible
    decide
  have notScene : s.entity.domain ≠ .scene := by
    intro scene
    rw [scene] at possible
    revert possible
    decide
  by_cases cover : s.entity.domain = .cover
  · cases state with
    | on =>
      refine ⟨_, ?_, .opened cover⟩
      simp only [powerCall, cover]
      rfl
    | off =>
      refine ⟨_, ?_, .closed cover⟩
      simp only [powerCall, cover]
      rfl
  · cases state with
    | on =>
      have service : (powerCall s.entity .on).service = "turn_on" := by
        unfold powerCall
        split <;> simp_all [ServiceCall.own, ServiceCall.inDomain]
      refine ⟨s.entity.withState "on", ?_, .on cover notClimate⟩
      rw [Entity.serve_of_turn_on service, powerCall_data, Entity.turnedOn_empty notScene]
    | off =>
      have service : (powerCall s.entity .off).service = "turn_off" := by
        unfold powerCall
        split <;> simp_all [ServiceCall.own, ServiceCall.inDomain]
      refine ⟨s.entity.withState "off", ?_, .off cover notClimate⟩
      rw [Entity.serve_of_turn_off service, Entity.turnedOff, if_neg notScene]

theorem effect_of_percentageCall {percentage : Int64} (inRange : Percent.IsPercentage percentage)
    (made : percentageCall s percentage = .ok c) :
    ∃ e', s.entity.serve c = .ok e' ∧
      Effect s.entity s.unit (percentageAnswer c percentage).readings e' := by
  unfold percentageCall at made
  split at made
  · next cover =>
    cases made
    refine ⟨_, ?_, .moved cover inRange⟩
    have received : (Binary64.ofInt percentage.toInt).roundToInt64 = percentage :=
      Percent.roundToInt64_ofInt inRange
    show Except.ok ((s.entity.withState
      (if 0 < (Binary64.ofInt percentage.toInt).roundToInt64 then "open" else "closed")
      ).withAttribute Key.currentPosition
        (.int (Binary64.ofInt percentage.toInt).roundToInt64)) = _
    rw [received]
  · next fan =>
    cases made
    exact ⟨_, rfl, .sped fan⟩
  · cases made

theorem effect_of_setpoints {target : Option Binary64} {pair : Option (Binary64 × Binary64)}
    (climate : s.entity.domain = .climate) (bounded : s.entity.FiniteBounds)
    (allowed : (SetpointRange.ofEntity s.entity s.unit).Allows target pair)
    (some_asked : setpointsOf target pair ≠ [])
    (called : (setpointOutcome s (setpointsOf target pair)).call = some c) :
    ∃ e', s.entity.serve c = .ok e' ∧
      Effect s.entity s.unit (setpointOutcome s (setpointsOf target pair)).readings e' := by
  have bounds := bounded.setpointRange s.unit
  have finite : ∀ p value, Setpoint.given target pair p = some value → value.isFinite = true := by
    intro p value given
    obtain ⟨lowest, highest⟩ := allowed.contains p value given
    exact Binary64.isFinite_of_between bounds.1 bounds.2 lowest highest
  have given : Entity.hasSetpoint (setpointData (setpointsOf target pair)) = true := by
    obtain ⟨⟨p, value⟩, member⟩ := List.exists_mem_of_ne_nil _ some_asked
    have listed : p.key ∈ Entity.setpointKeys := by cases p <;> decide
    refine List.any_eq_true.2 ⟨p.key, listed, ?_⟩
    rw [number?_setpointData finite p, mem_setpointsOf member]
    rfl
  rw [setpointOutcome_call] at called
  cases called
  refine ⟨_, ?_, .heated climate allowed finite⟩
  show (if Entity.hasSetpoint (setpointData (setpointsOf target pair)) then _ else _) = _
  rw [if_pos given]

theorem serve_volume (n : Int64) :
    s.entity.serve
        ((s.call "volume_set").withData Key.volumeLevel (.ofNumber (Percent.toVolumeLevel n))) =
      .ok (s.entity.withVolume (Percent.toVolumeLevel n)) := by
  have received : ServiceCall.numberArgument
      ((s.call "volume_set").withData Key.volumeLevel (.ofNumber (Percent.toVolumeLevel n)))
      Key.volumeLevel = .ok (Percent.toVolumeLevel n) :=
    ServiceCall.argument_of_view (Json.number?_ofNumber (Percent.isFinite_toVolumeLevel n))
  exact congrArg (Except.map s.entity.withVolume) received

/-- A call that is decided on is served, if its entity can be told what the directive says and, when
it is a thermostat, has finite bounds. -/
theorem Decided.effect {k : DirectiveKind} {o : Outcome} (h : Decided s k o)
    (possible : s.entity.domain ∈ k.domains)
    (bounded : s.entity.domain = .climate → s.entity.FiniteBounds) (called : o.call = some c) :
    ∃ e', s.entity.serve c = .ok e' ∧ Effect s.entity s.unit o.readings e' := by
  have only {d : Domain} (h : s.entity.domain ∈ [d]) : s.entity.domain = d := List.mem_singleton.1 h
  cases h with
  | turnOn => cases called; exact effect_of_powerCall .on possible
  | turnOff => cases called; exact effect_of_powerCall .off possible
  | @setBrightness percent asked =>
    cases called
    have light := only possible
    refine ⟨_, ?_, .dimmed light (s.isPercentage_of_percentArgument asked)⟩
    exact congrArg Except.ok (Entity.turnedOn_brightness light percent)
  | adjustBrightness =>
    cases called
    have light := only possible
    refine ⟨_, ?_, .dimmed light (Percent.isPercentage_shift _ _)⟩
    exact congrArg Except.ok (Entity.turnedOn_brightness light _)
  | setColor =>
    cases called
    have light := only possible
    exact ⟨_, congrArg Except.ok (Entity.turnedOn_color light _), .colored light⟩
  | setColorTemperature _ _ back | increaseColorTemperature _ _ back
  | decreaseColorTemperature _ _ back =>
    cases called
    have light := only possible
    exact ⟨_, congrArg Except.ok (Entity.turnedOn_colorTemperature light _), .whitened light back⟩
  | setPercentage asked made =>
    cases called
    exact effect_of_percentageCall (s.isPercentage_of_percentArgument asked) made
  | adjustPercentage _ _ made =>
    cases called
    exact effect_of_percentageCall (Percent.isPercentage_shift _ _) made
  | setTargetTemperature askedTarget askedPair some_asked =>
    have climate := only possible
    have allowed := SetpointRange.allows_of_arguments askedTarget askedPair
    exact effect_of_setpoints climate (bounded climate) allowed some_asked called
  | adjustTargetTemperature _ _ inRange =>
    have climate := only possible
    obtain ⟨contains, rfl⟩ := SetpointRange.check_eq_ok.1 inRange
    have allowed := SetpointRange.allows_target contains
    exact effect_of_setpoints climate (bounded climate) allowed (List.cons_ne_nil _ _) called
  | setThermostatMode _ chosen =>
    cases called
    obtain ⟨modes, listed, member⟩ := listed_of_choose?_eq_some chosen
    have reported := (ThermostatMode.of_choose?_eq_some chosen).2
    exact ⟨_, rfl, .moded (only possible) reported listed member⟩
  | lock => cases called; exact ⟨_, rfl, .locked (only possible)⟩
  | unlock => cases called; exact ⟨_, rfl, .unlocked (only possible)⟩
  | activate =>
    cases called
    by_cases scene : s.entity.domain = .scene
    · refine ⟨s.entity, ?_, .kept⟩
      show Except.ok (s.entity.turnedOn []) = _
      rw [Entity.turnedOn, scene]
    · have script : s.entity.domain = .script :=
        List.mem_singleton.1 ((List.mem_cons.1 possible).resolve_left scene)
      exact ⟨_, congrArg Except.ok (Entity.turnedOn_empty scene), .restated (.inl script)⟩
  | deactivate script =>
    cases called
    refine ⟨s.entity.withState "off", ?_, .restated (.inl script)⟩
    show Except.ok s.entity.turnedOff = _
    rw [Entity.turnedOff, if_neg (by rw [script]; decide)]
  | setVolume | adjustVolume =>
    cases called
    exact ⟨_, serve_volume _, .loud (only possible)⟩
  | setMute =>
    cases called
    exact ⟨_, rfl, .muted (only possible) fun r => List.mem_singleton.1⟩
  | stepSetMute =>
    cases called
    exact ⟨_, rfl, .muted (only possible) fun r said => absurd said List.not_mem_nil⟩
  | stepNone => cases called
  | stepUp | stepDown => cases called; exact ⟨_, rfl, .stepped (only possible)⟩
  | play | pause | stop => cases called; exact ⟨_, rfl, .restated (.inr (only possible))⟩
  | next | previous => cases called; exact ⟨_, rfl, .kept⟩
  | selectInput => cases called; exact ⟨_, rfl, .selected (only possible)⟩

end Control

end HomeVoice
