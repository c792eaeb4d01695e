import ChargeController.Json.Reader
import ChargeController.Service.Dialect
import ChargeController.Service.Layer

/-!
# Configuration files

A file has up to six sections, each of which may be missing.  The sections about the serial line
and the collector replace all their settings at once, and what is missing in them has its usual
value; in the other four every key stands for itself, and an empty value is the same as none.  The
name of a file tells its dialect.

* `FileConfig.ofDocument?` — the sections of a document.
* `FileConfig.onto` — the sections on top of a configuration.
* `loadConfig` — the configuration from file and environment.
-/

namespace ChargeController

/-! ## Sections -/

/-- The section about the device. -/
structure DeviceSection where
  enabled : Option Bool
  deviceId : Option String
  controllerType : Option String

/-- The section about the times of collections. -/
structure PollerSection where
  pollInterval : Option Nat
  collectionTimeout : Option Nat

/-- The section about the way of collecting. -/
structure CollectorSettings where
  strategy : Strategy
  recovery : Nat

/-- The section about the cache. -/
structure ConfigurerSection where
  cacheTtl : Option Nat

/-- The section about topics. -/
structure PublisherSection where
  topicRoot : Option String

/-- What a configuration file says. -/
structure FileConfig where
  device : Option DeviceSection
  serial : Option LinkSettings
  poller : Option PollerSection
  collector : Option CollectorSettings
  configurer : Option ConfigurerSection
  publisher : Option PublisherSection

/-- How a section is written: its keys in their order, and whether a row of values must have one for
each of them. -/
structure SectionForm where
  name : String
  keys : List String
  complete : Bool

namespace SectionForm

/-- The device. -/
def device : SectionForm := ⟨"device", ["enabled", "device_id", "controller_type"], true⟩

/-- The serial line. -/
def serial : SectionForm :=
  ⟨"serial", ["serial_port", "baud_rate", "slave_id", "timeout_ms", "retry_attempts",
    "retry_delay_ms"], false⟩

/-- The times of collections. -/
def poller : SectionForm := ⟨"poller", ["poll_interval_ms", "collection_timeout_ms"], true⟩

/-- The way of collecting. -/
def collector : SectionForm := ⟨"collector", ["strategy", "read_recovery_ms"], false⟩

/-- The cache. -/
def configurer : SectionForm := ⟨"configurer", ["cache_ttl_secs"], true⟩

/-- Topics. -/
def publisher : SectionForm := ⟨"publisher", ["topic_prefix"], true⟩

/-- All sections, in their order. -/
def all : List SectionForm := [device, serial, poller, collector, configurer, publisher]

end SectionForm

/-! ## Reading sections -/

/-- The values of a section by key. -/
abbrev Section (Value : Type) := String → Option Value

namespace Section

variable {Value α : Type}

/-- A key whose value may be empty. -/
def optionalKey (d : Dialect Value) (s : Section Value) (key : String) (read : Value → Option α) :
    Option (Option α) :=
  match s key with
  | none => some none
  | some v => if d.isNull v then some none else (read v).map some

/-- A key with a value of its own when it is missing. -/
def keyOr (s : Section Value) (key : String) (usual : α) (read : Value → Option α) : Option α :=
  match s key with
  | none => some usual
  | some v => read v

/-- The device. -/
def device? (d : Dialect Value) (s : Section Value) : Option DeviceSection := do
  return {
    enabled := ← s.optionalKey d "enabled" d.boolean?
    deviceId := ← s.optionalKey d "device_id" d.text?
    controllerType := ← s.optionalKey d "controller_type" d.text? }

/-- The serial line. -/
def serial? (d : Dialect Value) (s : Section Value) : Option LinkSettings := do
  let usual := LinkSettings.usual
  return {
    serialPort := ← s.keyOr "serial_port" usual.serialPort d.text?
    baudRate := ← s.keyOr "baud_rate" usual.baudRate (d.natural? UInt32.size)
    slaveId := ← s.keyOr "slave_id" usual.slaveId (d.natural? UInt8.size)
    timeout := ← s.keyOr "timeout_ms" usual.timeout (d.natural? UInt64.size)
    retryAttempts := ← s.keyOr "retry_attempts" usual.retryAttempts (d.natural? UInt64.size)
    retryDelay := ← s.keyOr "retry_delay_ms" usual.retryDelay (d.natural? UInt64.size) }

/-- The times of collections. -/
def poller? (d : Dialect Value) (s : Section Value) : Option PollerSection := do
  return {
    pollInterval := ← s.optionalKey d "poll_interval_ms" (d.natural? UInt64.size)
    collectionTimeout := ← s.optionalKey d "collection_timeout_ms" (d.natural? UInt64.size) }

/-- The strategy of a name. -/
def strategy? (d : Dialect Value) (v : Value) : Option Strategy :=
  (d.choice? v).bind Strategy.ofName?

/-- The way of collecting. -/
def collector? (d : Dialect Value) (s : Section Value) : Option CollectorSettings := do
  return {
    strategy := ← s.keyOr "strategy" ServiceConfig.usual.strategy (strategy? d)
    recovery := ← s.keyOr "read_recovery_ms" ServiceConfig.usual.recovery
      (d.natural? UInt64.size) }

/-- The cache. -/
def configurer? (d : Dialect Value) (s : Section Value) : Option ConfigurerSection := do
  return { cacheTtl := ← s.optionalKey d "cache_ttl_secs" (d.natural? UInt64.size) }

/-- Topics. -/
def publisher? (d : Dialect Value) (s : Section Value) : Option PublisherSection := do
  return { topicRoot := ← s.optionalKey d "topic_prefix" d.text? }

end Section

namespace FileConfig

variable {Value : Type}

/-- A section of a document. -/
def readSection {α : Type} (d : Dialect Value) (document : Section Value) (form : SectionForm)
    (read : Section Value → Option α) : Option (Option α) :=
  document.optionalKey d form.name fun v => (d.sectionOf? form.keys form.complete v).bind read

/-- The sections of a document. -/
def ofDocument? (d : Dialect Value) (v : Value) : Option FileConfig := do
  let document : Section Value ← d.sectionOf? (SectionForm.all.map (·.name)) true v
  return {
    device := ← readSection d document .device (Section.device? d)
    serial := ← readSection d document .serial (Section.serial? d)
    poller := ← readSection d document .poller (Section.poller? d)
    collector := ← readSection d document .collector (Section.collector? d)
    configurer := ← readSection d document .configurer (Section.configurer? d)
    publisher := ← readSection d document .publisher (Section.publisher? d) }

/-- The sections of a file on top of a configuration. -/
def onto (file : FileConfig) (base : ServiceConfig) : ServiceConfig where
  enabled := (file.device.bind (·.enabled)).getD base.enabled
  identity := {
    deviceId := (file.device.bind (·.deviceId)).getD base.identity.deviceId
    controllerType := (file.device.bind (·.controllerType)).getD base.identity.controllerType }
  link := file.serial.getD base.link
  pollInterval := (file.poller.bind (·.pollInterval)).getD base.pollInterval
  collectionTimeout := (file.poller.bind (·.collectionTimeout)).getD base.collectionTimeout
  strategy := (file.collector.map (·.strategy)).getD base.strategy
  recovery := (file.collector.map (·.recovery)).getD base.recovery
  cacheTtl := (file.configurer.bind (·.cacheTtl)).getD base.cacheTtl
  topicRoot := (file.publisher.bind (·.topicRoot)).getD base.topicRoot

end FileConfig

/-! ## Files -/

/-- The kinds of configuration file. -/
inductive FileKind where
  | json
  | toml
deriving DecidableEq

namespace FileKind

/-- The name of the file at the end of a path, if the path does not end in a step upwards. -/
def fileName? (path : List Char) : Option (List Char) :=
  match ((path.splitOn '/').filter fun part => !part.isEmpty && part != ['.']).getLast? with
  | some part => if part = ['.', '.'] then none else some part
  | none => none

/-- What follows the last point of a name, unless that is its first character. -/
def extension? (name : List Char) : Option (List Char) :=
  match name.splitOn '.' with
  | [_] => none
  | [[], _] => none
  | parts => parts.getLast?

/-- Only the extension `json`, in small letters, makes a JSON document. -/
def ofPath (path : String) : FileKind :=
  if (fileName? path.toList).bind extension? = some "json".toList then json else toml

/-- The name of a kind. -/
def name : FileKind → String
  | json => "json"
  | toml => "toml"

/-- What a file with the given text says. -/
def config? (kind : FileKind) (text : String) : Option FileConfig :=
  match kind with
  | json => (Json.ofText? text).bind (FileConfig.ofDocument? Dialect.json)
  | toml =>
      (Toml.ofText? text).bind fun entries =>
        FileConfig.ofDocument? Dialect.toml (.table .header entries)

end FileKind

/-- Why there is no configuration. -/
inductive LoadFault where
  | unreadable (path : String)
  | malformed (kind : FileKind)
deriving DecidableEq

/-- The wording of a fault. -/
def LoadFault.message : LoadFault → String
  | .unreadable path => "read config file " ++ path
  | .malformed kind => "parse " ++ kind.name ++ " config"

/-- The contents of files by path, as far as they can be read. -/
abbrev Files := String → Option ByteArray

/-- The text of a file, if it can be read and its bytes are a text. -/
def fileText? (files : Files) (path : String) : Option String :=
  (files path).bind String.fromUTF8?

/-- What a file says. -/
def fileConfig (files : Files) (path : String) : Except LoadFault FileConfig :=
  match fileText? files path with
  | none => .error (.unreadable path)
  | some text =>
      match (FileKind.ofPath path).config? text with
      | some file => .ok file
      | none => .error (.malformed (.ofPath path))

/-- The path of the configuration file: the given one, or else that of the environment. -/
def configPath? (given : Option String) (env : Environment) : Option String :=
  given <|> env "SOLAR_CONFIG"

/-- The usual values, with the configuration file on top if there is one. -/
def baseConfig (given : Option String) (env : Environment) (files : Files) :
    Except LoadFault ServiceConfig :=
  match configPath? given env with
  | some path => (fileConfig files path).map fun file => file.onto .usual
  | none => .ok .usual

/-- The configuration: the environment on top of the file on top of the usual values. -/
def loadConfig (given : Option String) (env : Environment) (files : Files) :
    Except LoadFault ServiceConfig :=
  (baseConfig given env files).map (ConfigLayer.ofEnvironment env).onto

end ChargeController
