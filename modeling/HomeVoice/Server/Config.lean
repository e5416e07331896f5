import HomeVoice.Bridge.Settings
import HomeVoice.Hub.Declaration
import HomeVoice.Toml.Reader

/-!
# Configuration

A server is configured by a file, in which everything has a default, and by environment variables,
which go before the file. Only what comes out of both is checked: the port, and the ids of the
entities that are singled out.
-/

namespace HomeVoice

/-- The configuration of a server. -/
structure Config where
  host : String
  port : UInt16
  logFilter : String
  /-- Whether directives are accepted at all. -/
  enabled : Bool
  settings : Settings
  entities : List EntityDeclaration

/-- What there is of a configuration file. -/
inductive ConfigFile where
  | missing
  | unreadable
  | text (content : String)

/-- Why a configuration is not valid. -/
inductive ConfigFault where
  | portZero
  | malformedId (text : String)
  deriving DecidableEq

/-- The text of a fault. -/
def ConfigFault.message : ConfigFault → String
  | .portZero => "port must be non-zero"
  | .malformedId text => Text.quoted text ++ " is not a valid entity id"

/-- Why there is no configuration. -/
inductive ConfigError where
  | malformed
  | unreadable
  | invalid (fault : ConfigFault)
  deriving DecidableEq

/-- The text of an error. -/
def ConfigError.message : ConfigError → String
  | .malformed => "failed to parse config file"
  | .unreadable => "failed to read config file"
  | .invalid fault => "invalid configuration: " ++ fault.message

/-- The values of environment variables. -/
abbrev Environment := String → Option String

namespace Config

/-- The configuration of a server for which nothing is said. -/
def standard : Config where
  host := "0.0.0.0"
  port := 3000
  logFilter := "voxbridged=info,voxbridge=info,tower_http=debug"
  enabled := true
  settings := ⟨.all, [], .celsius⟩
  entities := []

/-! ## The file -/

/-- A port in a document. -/
def decodePort : Decoder UInt16 :=
  Decoder.int64.filterMap fun n =>
    if 0 ≤ n ∧ n ≤ 65535 then .ok n.toUInt64.toUInt16 else .error (.refused "not a port")

/-- Where the server listens: its host and its port. -/
def decodeServer : Decoder (String × UInt16) :=
  Record.decodeIn Toml.format "ServerConfig"
    (Prod.mk <$> .defaulted "host" Decoder.string standard.host
      <*> .defaulted "port" decodePort standard.port)

/-- What is logged. -/
def decodeLogging : Decoder String :=
  Record.decodeIn Toml.format "LoggingConfig"
    (.defaulted "filter" Decoder.string standard.logFilter)

/-- Whether directives are accepted, and the settings of the bridge. -/
def decodeSmartHome : Decoder (Bool × Settings) :=
  Record.decodeIn Toml.format "SmartHomeSection"
    ((fun enabled unit exposure presentations => (enabled, ⟨exposure, presentations, unit⟩))
      <$> .defaulted "enabled" Decoder.bool standard.enabled
      <*> .defaulted "temperature_unit" (TemperatureUnit.decode Toml.format) standard.settings.unit
      <*> .defaulted "filter" (Exposure.decode Toml.format) standard.settings.exposure
      <*> .defaulted "entity_config" (.dict (Presentation.decode Toml.format))
        standard.settings.presentations)

/-- A configuration in a document. -/
def decode : Decoder Config :=
  Record.decodeIn Toml.format "Config"
    ((fun (host, port) logFilter (enabled, settings) entities =>
        ⟨host, port, logFilter, enabled, settings, entities⟩)
      <$> .defaulted "server" decodeServer (standard.host, standard.port)
      <*> .defaulted "logging" decodeLogging standard.logFilter
      <*> .defaulted "smart_home" decodeSmartHome (standard.enabled, standard.settings)
      <*> .defaulted "entities" (.list (EntityDeclaration.decode Toml.format))
        standard.entities)

/-- The configuration that a file gives. Where there is no file it is the standard one. -/
def ofFile : ConfigFile → Except ConfigError Config
  | .missing => .ok standard
  | .unreadable => .error .unreadable
  | .text content =>
    match (Toml.parse? content).bind fun document => (decode document).toOption with
    | some c => .ok c
    | none => .error .malformed

/-! ## The environment -/

/-- The parts of a text before and after the last `c`. -/
def splitAtLast? (c : Char) (s : String) : Option (String × String) :=
  let back := s.toList.reverse
  match back.dropWhile (· ≠ c) with
  | [] => none
  | _ :: front => some (.ofList front.reverse, .ofList (back.takeWhile (· ≠ c)).reverse)

/-- The port that a text names. -/
def readPort? (s : String) : Option UInt16 :=
  match Text.readNatural? s.toList with
  | some n => if n < 65536 then some (.ofNat n) else none
  | none => none

/-- The configuration with the port that a text names. A text that names none says nothing. -/
def withPort (c : Config) (text : String) : Config :=
  match readPort? text with
  | some port => { c with port }
  | none => c

/-- The configuration with the host and the port of an address, in which the last colon separates
them. A text without a colon says nothing. -/
def withAddress (c : Config) (text : String) : Config :=
  match splitAtLast? ':' text with
  | some (host, port) => withPort { c with host } port
  | none => c

/-- A variable and what its value puts in place of what a configuration has. -/
structure Override where
  name : String
  write : Config → String → Config

/-- The variables in the order in which they are looked up, so that a later one goes before an
earlier one. -/
def overrides : List Override := [
  ⟨"VOXBRIDGE_HOST", fun c host => { c with host }⟩,
  ⟨"VOXBRIDGE_PORT", withPort⟩,
  ⟨"VOXBRIDGE_BIND", withAddress⟩,
  ⟨"VOXBRIDGE_LOG", fun c logFilter => { c with logFilter }⟩,
  ⟨"RUST_LOG", fun c logFilter => { c with logFilter }⟩]

/-- The configuration after one variable has been looked up. -/
def override (env : Environment) (c : Config) (o : Override) : Config :=
  match env o.name with
  | some text => o.write c text
  | none => c

/-- The configuration with what the environment says in place of what the file does. -/
def withEnvironment (c : Config) (env : Environment) : Config :=
  overrides.foldl (override env) c

/-! ## Validity -/

/-- The ids of the entities that a configuration singles out. -/
def mentionedIds (c : Config) : List String :=
  Dict.keys c.settings.presentations ++ c.settings.exposure.includeEntities
    ++ c.settings.exposure.excludeEntities

/-- Whether a text is the id of an entity. -/
def isEntityId (s : String) : Bool :=
  (EntityId.parse s).isOk

/-- What makes a configuration invalid, if anything does. -/
def fault? (c : Config) : Option ConfigFault :=
  if c.port = 0 then some .portZero
  else (c.mentionedIds.find? fun s => !isEntityId s).map .malformedId

/-- The valid configuration that a file and an environment give. -/
def load (file : ConfigFile) (env : Environment) : Except ConfigError Config :=
  (ofFile file).bind fun c =>
    let c := c.withEnvironment env
    match c.fault? with
    | some fault => .error (.invalid fault)
    | none => .ok c

/-- The address on which the server listens. -/
def bindAddress (c : Config) : String :=
  c.host ++ ":" ++ toString c.port.toNat

end Config

end HomeVoice
