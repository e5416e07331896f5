import HomeVoice.Proofs.Fallible
import HomeVoice.Proofs.Text.Number
import HomeVoice.Server.Config

/-!
# Overrides and validity

The variables of the environment write over one another: of those that say something about a field
the last one counts, and a field about which none says anything stays as the file has it. A server
starts with what comes out of this when there is a port and every entity that is singled out is
named by an id.
-/

namespace HomeVoice.Config

variable {env : Environment} {c : Config} {text host port : String} {p : UInt16}

/-! ## Addresses -/

/-- A text is an address: a host and a port with the last colon between them. -/
structure IsAddress (text host port : String) : Prop where
  text : text = host ++ ":" ++ port
  plain : ':' ∉ port.toList

/-- A text is cut where it is an address, and so in one way at most. -/
theorem splitAtLast?_eq_some_iff :
    splitAtLast? ':' text = some (host, port) ↔ IsAddress text host port := by
  -- What stands after the last colon is what stands before the first one of the reversed text.
  unfold splitAtLast?
  constructor
  · intro cut
    have whole := List.takeWhile_append_dropWhile (p := (· ≠ ':')) (l := text.toList.reverse)
    dsimp only at cut
    split at cut
    · cases cut
    · next mark front rest =>
      cases cut
      obtain rfl : mark = ':' := by
        have stop := List.head?_dropWhile_not (· ≠ ':') text.toList.reverse
        rw [rest] at stop
        simpa using stop
      refine ⟨?_, ?_⟩
      · rw [← String.toList_inj]
        simp only [String.toList_append, String.toList_ofList]
        rw [rest] at whole
        simpa using (congrArg List.reverse whole).symm
      · intro member
        rw [String.toList_ofList, List.mem_reverse] at member
        simpa using List.all_eq_true.1 List.all_takeWhile ':' member
  · rintro ⟨rfl, plain⟩
    have pass : ∀ c ∈ port.toList.reverse, decide (c ≠ ':') = true := by
      intro c member
      exact decide_eq_true fun colon => plain (List.mem_reverse.1 (colon ▸ member))
    have back : (host ++ ":" ++ port).toList.reverse =
        port.toList.reverse ++ ':' :: host.toList.reverse := by
      simp [String.toList_append]
    simp only [back, List.takeWhile_append_of_pos pass, List.dropWhile_append_of_pos pass]
    simp

/-- A text names a port: it is a numeral of it. -/
def IsPort (text : String) (p : UInt16) : Prop :=
  Text.IsNumeral text.toList p.toNat

theorem readPort?_eq_some_iff : readPort? text = some p ↔ IsPort text p := by
  rw [IsPort, ← Text.readNatural?_eq_some_iff, readPort?]
  cases Text.readNatural? text.toList with
  | none => simp
  | some n =>
    dsimp only
    split
    · next small =>
      rw [Option.some_inj, Option.some_inj, ← UInt16.toNat_inj, UInt16.toNat_ofNat_of_lt' small]
    · next large =>
      refine iff_of_false nofun ?_
      rintro ⟨⟩
      exact large p.toNat_lt

/-- The address of a configuration is that of its host and its port, whatever the host is. -/
theorem isAddress_bindAddress (c : Config) :
    IsAddress c.bindAddress c.host (toString c.port.toNat) where
  text := rfl
  plain := by
    intro colon
    exact absurd ((Text.isDigits_toString _).2 ':' colon) (by decide)

theorem isPort_toString (p : UInt16) : IsPort (toString p.toNat) p :=
  Text.isNumeral_toString p.toNat

/-! ## Overrides -/

/-- The host that an address names. -/
def hostOf? (text : String) : Option String :=
  (splitAtLast? ':' text).map Prod.fst

/-- The port that an address names. -/
def portOf? (text : String) : Option UInt16 :=
  (splitAtLast? ':' text).bind fun cut => readPort? cut.2

theorem withPort_eq (c : Config) (text : String) :
    c.withPort text = { c with port := (readPort? text).getD c.port } := by
  unfold withPort
  cases readPort? text <;> rfl

theorem withAddress_eq (c : Config) (text : String) :
    c.withAddress text =
      { c with host := (hostOf? text).getD c.host, port := (portOf? text).getD c.port } := by
  unfold withAddress hostOf? portOf?
  cases splitAtLast? ':' text with
  | none => rfl
  | some cut =>
    obtain ⟨host, port⟩ := cut
    exact withPort_eq _ _

/-- What is made of a configuration by looking up one variable, from what its value writes. -/
theorem override_eq {o : Override} {f : Option String → Config} (nothing : f none = c)
    (written : ∀ text, o.write c text = f (some text)) : override env c o = f (env o.name) := by
  unfold override
  cases env o.name with
  | none => exact nothing.symm
  | some text => exact written text

/-- What the variables make of a configuration, field by field. -/
theorem withEnvironment_eq (c : Config) (env : Environment) :
    c.withEnvironment env = { c with
      host := ((env "VOXBRIDGE_BIND").bind hostOf?).getD ((env "VOXBRIDGE_HOST").getD c.host)
      port := ((env "VOXBRIDGE_BIND").bind portOf?).getD
        (((env "VOXBRIDGE_PORT").bind readPort?).getD c.port)
      logFilter := (env "RUST_LOG").getD ((env "VOXBRIDGE_LOG").getD c.logFilter) } := by
  -- One law for each variable; together they are the fields one after another.
  have host (c : Config) : override env c ⟨"VOXBRIDGE_HOST", fun c host => { c with host }⟩ =
      { c with host := (env "VOXBRIDGE_HOST").getD c.host } :=
    override_eq (f := fun host => { c with host := host.getD c.host }) rfl fun _ => rfl
  have port (c : Config) : override env c ⟨"VOXBRIDGE_PORT", withPort⟩ =
      { c with port := ((env "VOXBRIDGE_PORT").bind readPort?).getD c.port } :=
    override_eq (f := fun text => { c with port := (text.bind readPort?).getD c.port }) rfl
      (withPort_eq c)
  have address (c : Config) : override env c ⟨"VOXBRIDGE_BIND", withAddress⟩ =
      { c with
        host := ((env "VOXBRIDGE_BIND").bind hostOf?).getD c.host
        port := ((env "VOXBRIDGE_BIND").bind portOf?).getD c.port } :=
    override_eq
      (f := fun text => { c with
        host := (text.bind hostOf?).getD c.host
        port := (text.bind portOf?).getD c.port })
      rfl (withAddress_eq c)
  have log (name : String) (c : Config) :
      override env c ⟨name, fun c logFilter => { c with logFilter }⟩ =
        { c with logFilter := (env name).getD c.logFilter } :=
    override_eq (f := fun filter => { c with logFilter := filter.getD c.logFilter }) rfl
      fun _ => rfl
  simp only [withEnvironment, overrides, List.foldl, host, port, address, log]

/-- The address in the environment names a host. -/
def BindsHost (env : Environment) (host : String) : Prop :=
  ∃ text port, env "VOXBRIDGE_BIND" = some text ∧ IsAddress text host port

/-- The address in the environment names a port. -/
def BindsPort (env : Environment) (p : UInt16) : Prop :=
  ∃ text host port, env "VOXBRIDGE_BIND" = some text ∧ IsAddress text host port ∧ IsPort port p

/-- The variable for the port names one. -/
def SetsPort (env : Environment) (p : UInt16) : Prop :=
  ∃ text, env "VOXBRIDGE_PORT" = some text ∧ IsPort text p

theorem bind_hostOf?_iff (env : Environment) (host : String) :
    (env "VOXBRIDGE_BIND").bind hostOf? = some host ↔ BindsHost env host := by
  simp [BindsHost, hostOf?, Option.bind_eq_some_iff, splitAtLast?_eq_some_iff]

theorem bind_portOf?_iff (env : Environment) (p : UInt16) :
    (env "VOXBRIDGE_BIND").bind portOf? = some p ↔ BindsPort env p := by
  simp [BindsPort, portOf?, Option.bind_eq_some_iff, splitAtLast?_eq_some_iff,
    readPort?_eq_some_iff]

theorem bind_readPort?_iff (env : Environment) (p : UInt16) :
    (env "VOXBRIDGE_PORT").bind readPort? = some p ↔ SetsPort env p := by
  simp [SetsPort, Option.bind_eq_some_iff, readPort?_eq_some_iff]

/-- What the environment makes of a configuration: which variable each field comes from. -/
structure Overridden (env : Environment) (c c' : Config) : Prop where
  host_bound : ∀ host, BindsHost env host → c'.host = host
  host : (¬∃ host, BindsHost env host) → c'.host = (env "VOXBRIDGE_HOST").getD c.host
  port_bound : ∀ p, BindsPort env p → c'.port = p
  port_set : (¬∃ p, BindsPort env p) → ∀ p, SetsPort env p → c'.port = p
  port : (¬∃ p, BindsPort env p) → (¬∃ p, SetsPort env p) → c'.port = c.port
  logFilter : c'.logFilter = (env "RUST_LOG").getD ((env "VOXBRIDGE_LOG").getD c.logFilter)
  enabled : c'.enabled = c.enabled
  settings : c'.settings = c.settings
  entities : c'.entities = c.entities

theorem getD_cases {α : Type} {x : Option α} {a : α} {P : α → Prop} (iff : ∀ a, x = some a ↔ P a) :
    (∀ b, P b → x.getD a = b) ∧ ((¬∃ b, P b) → x.getD a = a) := by
  simp only [← iff]
  cases x <;> simp

theorem overridden_withEnvironment (c : Config) (env : Environment) :
    Overridden env c (c.withEnvironment env) := by
  rw [withEnvironment_eq]
  obtain ⟨host_bound, host⟩ :=
    getD_cases (a := (env "VOXBRIDGE_HOST").getD c.host) (bind_hostOf?_iff env)
  obtain ⟨port_bound, port⟩ :=
    getD_cases (a := ((env "VOXBRIDGE_PORT").bind readPort?).getD c.port) (bind_portOf?_iff env)
  obtain ⟨port_set, port_free⟩ := getD_cases (a := c.port) (bind_readPort?_iff env)
  exact {
    host_bound, host, port_bound
    port_set := fun unbound p set => (port unbound).trans (port_set p set)
    port := fun unbound unset => (port unbound).trans (port_free unset)
    logFilter := rfl
    enabled := rfl
    settings := rfl
    entities := rfl }

/-! ## Validity -/

/-- A text is the id of an entity. -/
def IsId (text : String) : Prop :=
  ∃ id, EntityId.parse text = .ok id

/-- There is a port, and whatever is singled out is named by an id. -/
structure Valid (c : Config) : Prop where
  port_ne : c.port ≠ 0
  presented : ∀ text ∈ Dict.keys c.settings.presentations, IsId text
  included : ∀ text ∈ c.settings.exposure.includeEntities, IsId text
  excluded : ∀ text ∈ c.settings.exposure.excludeEntities, IsId text

theorem isEntityId_iff : isEntityId text = true ↔ IsId text := by
  unfold isEntityId IsId
  cases EntityId.parse text <;> simp [Except.isOk, Except.toBool]

theorem mem_mentionedIds :
    text ∈ c.mentionedIds ↔ text ∈ Dict.keys c.settings.presentations ∨
      text ∈ c.settings.exposure.includeEntities ∨ text ∈ c.settings.exposure.excludeEntities := by
  simp [mentionedIds]

theorem fault?_eq_none_iff : c.fault? = none ↔ c.Valid := by
  unfold fault?
  split
  · next zero => exact iff_of_false nofun fun valid => valid.port_ne zero
  · next nonzero =>
    simp only [Option.map_eq_none_iff, List.find?_eq_none, Bool.not_eq_true', Bool.not_eq_false,
      isEntityId_iff]
    constructor
    · intro named
      refine ⟨nonzero, ?_, ?_, ?_⟩
      · exact fun text member => named text (mem_mentionedIds.2 (.inl member))
      · exact fun text member => named text (mem_mentionedIds.2 (.inr (.inl member)))
      · exact fun text member => named text (mem_mentionedIds.2 (.inr (.inr member)))
    · intro valid text member
      rcases mem_mentionedIds.1 member with presented | included | excluded
      · exact valid.presented text presented
      · exact valid.included text included
      · exact valid.excluded text excluded

/-- A fault names something that is wrong. -/
theorem wrong_of_fault? {fault : ConfigFault} (found : c.fault? = some fault) :
    fault = .portZero ∧ c.port = 0 ∨
      ∃ text ∈ c.mentionedIds, fault = .malformedId text ∧ ¬IsId text := by
  unfold fault? at found
  split at found
  · next zero => exact .inl ⟨(Option.some.inj found).symm, zero⟩
  · obtain ⟨text, wrong, rfl⟩ := Option.map_eq_some_iff.1 found
    refine .inr ⟨text, List.mem_of_find?_eq_some wrong, rfl, ?_⟩
    rw [← isEntityId_iff]
    simpa using List.find?_some wrong

/-- A configuration is loaded when the file gives one and what the environment makes of it is
valid. -/
theorem load_eq_ok_iff {file : ConfigFile} {v : Config} :
    load file env = .ok v ↔ ∃ c, ofFile file = .ok c ∧ c.withEnvironment env = v ∧ v.Valid := by
  unfold load
  rw [bind_eq_ok]
  refine exists_congr fun c => and_congr_right fun _ => ?_
  dsimp only
  cases found : (c.withEnvironment env).fault? with
  | none =>
    have valid := fault?_eq_none_iff.1 found
    constructor
    · rintro ⟨⟩
      exact ⟨rfl, valid⟩
    · rintro ⟨rfl, -⟩
      rfl
  | some fault =>
    refine iff_of_false nofun ?_
    rintro ⟨rfl, valid⟩
    rw [fault?_eq_none_iff.2 valid] at found
    cases found

/-- Of the variables that say something about where a server listens and what it logs, the address
counts before the host and the port on their own, and these before the file; a variable that cannot
be read says nothing, and nothing else depends on the environment. Whoever is given the address of
another configuration listens where that one does. A server starts exactly when the file can be read
and there are, after all this, a port and an id for every entity that is singled out; and it starts
with what comes out of this. -/
theorem environment_overrides_file (env : Environment) (file : ConfigFile) :
    (∀ c : Config, Overridden env c (c.withEnvironment env)) ∧
    (∀ c c' : Config, env "VOXBRIDGE_BIND" = some c.bindAddress →
      (c'.withEnvironment env).host = c.host ∧ (c'.withEnvironment env).port = c.port) ∧
    ((∃ v, load file env = .ok v) ↔ ∃ c, ofFile file = .ok c ∧ (c.withEnvironment env).Valid) ∧
    ∀ c v, ofFile file = .ok c → load file env = .ok v → v = c.withEnvironment env := by
  refine ⟨fun c => overridden_withEnvironment c env, ?_, ?_, ?_⟩
  · intro c c' bound
    have overridden := overridden_withEnvironment c' env
    have address := isAddress_bindAddress c
    exact ⟨overridden.host_bound _ ⟨_, _, bound, address⟩,
      overridden.port_bound _ ⟨_, _, _, bound, address, isPort_toString c.port⟩⟩
  · simp only [load_eq_ok_iff]
    constructor
    · rintro ⟨_, c, read, rfl, valid⟩
      exact ⟨c, read, valid⟩
    · rintro ⟨c, read, valid⟩
      exact ⟨_, c, read, rfl, valid⟩
  · intro c v read loaded
    obtain ⟨c', read', rfl, -⟩ := load_eq_ok_iff.1 loaded
    rw [Except.ok.inj (read.symm.trans read')]

/-- Without a file, a server that is bound to an address of many colons listens there, whatever is
said of the host and the port on their own. -/
theorem environment_overrides_file_many_colons :
    let env : Environment := fun name =>
      if name = "VOXBRIDGE_BIND" then some "::1:9000"
      else if name = "VOXBRIDGE_HOST" then some "10.0.0.1"
      else if name = "VOXBRIDGE_PORT" then some "http"
      else none
    (standard.withEnvironment env).host = "::1" ∧ (standard.withEnvironment env).port = 9000 ∧
      (standard.withEnvironment env).logFilter = standard.logFilter ∧
      ∃ v, load .missing env = .ok v := by
  intro env
  obtain ⟨overridden, bound, loads, -⟩ := environment_overrides_file env .missing
  obtain ⟨host, port⟩ := bound { standard with host := "::1", port := 9000 } standard rfl
  have same := (overridden standard).settings
  refine ⟨host, port, (overridden standard).logFilter, loads.2 ⟨standard, rfl, ?_⟩⟩
  refine ⟨?_, ?_, ?_, ?_⟩
  · rw [port]
    decide
  all_goals
    rw [same]
    exact nofun

end HomeVoice.Config
