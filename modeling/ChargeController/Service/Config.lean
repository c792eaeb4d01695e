import ChargeController.Bus.Client
import ChargeController.Telemetry.Collection
import ChargeController.Telemetry.Identity
import ChargeController.Text.Blank

/-!
# The configuration of the service

Fifteen settings make up the configuration.  Every one has a usual value, and a configuration is
checked as a whole before anything is started with it.

* `ServiceConfig.usual` — the usual values.
* `ServiceConfig.check` — what must hold of the values.
-/

namespace ChargeController

/-- What the service is to do, for which device and over which link. -/
structure ServiceConfig where
  enabled : Bool
  identity : DeviceIdentity
  link : LinkSettings
  /-- The time between two collections, in milliseconds. -/
  pollInterval : Nat
  /-- How long a collection may take, in milliseconds. -/
  collectionTimeout : Nat
  strategy : Strategy
  /-- The pause between two reads of a collection, in milliseconds. -/
  recovery : Nat
  /-- How long a device's configuration stays in the cache, in seconds. -/
  cacheTtl : Nat
  /-- Put in front of every topic, unless it is empty. -/
  topicRoot : String
deriving DecidableEq

/-- What is wrong with a configuration. -/
inductive ConfigFault where
  /-- A setting that needs a text has none. -/
  | empty (field : String)
  /-- A part of a topic has a character that is reserved in topics. -/
  | reserved (field : String)
  /-- A setting is zero. -/
  | zero (field : String)
  | slaveOutOfRange
  | rootEndsInSlash
deriving DecidableEq

/-- The highest number that a device on the bus can have. -/
def maxSlaveId : Nat := 247

/-- The wording of a fault. -/
def ConfigFault.message : ConfigFault → String
  | .empty field => field ++ " must be non-empty"
  | .reserved field => field ++ " must not contain '/', '#' or '+'"
  | .zero field => field ++ " must be >= 1"
  | .slaveOutOfRange => s!"serial.slave_id must be between 1 and {maxSlaveId}"
  | .rootEndsInSlash => "publisher.topic_prefix must not start or end with '/'"

namespace ServiceConfig

/-- The usual values. -/
def usual : ServiceConfig where
  enabled := true
  identity := ⟨"solar-controller", "epever"⟩
  link := .usual
  pollInterval := 60000
  collectionTimeout := 30000
  strategy := .sequential
  recovery := 50
  cacheTtl := 600
  topicRoot := ""

/-! ## Checks -/

/-- Goes on if a condition holds. -/
def require (condition : Bool) (fault : ConfigFault) : Except ConfigFault Unit :=
  if condition then .ok () else .error fault

/-- Whether a text consists of blanks. -/
def isBlank (s : String) : Bool :=
  (Text.trim s.toList).isEmpty

/-- Whether a character separates the parts of topics or stands for any part. -/
def isReserved (c : Char) : Bool :=
  c == '/' || c == '#' || c == '+'

/-- A part of a topic has a text without reserved characters. -/
def checkSegment (field value : String) : Except ConfigFault Unit := do
  require (!isBlank value) (.empty field)
  require (!value.toList.any isReserved) (.reserved field)

/-- Whether a text begins or ends with a slash. -/
def hasOuterSlash (s : String) : Bool :=
  s.toList.head? == some '/' || s.toList.getLast? == some '/'

/-- What must hold of a configuration, in the order in which it is checked. -/
def check (c : ServiceConfig) : Except ConfigFault Unit := do
  checkSegment "device.device_id" c.identity.deviceId
  checkSegment "device.controller_type" c.identity.controllerType
  require (!isBlank c.link.serialPort) (.empty "serial.serial_port")
  require (c.link.baudRate != 0) (.zero "serial.baud_rate")
  require (c.link.slaveId != 0 && c.link.slaveId ≤ maxSlaveId) .slaveOutOfRange
  require (c.link.timeout != 0) (.zero "serial.timeout_ms")
  require (c.link.retryAttempts != 0) (.zero "serial.retry_attempts")
  require (c.pollInterval != 0) (.zero "poller.poll_interval_ms")
  require (c.collectionTimeout != 0) (.zero "poller.collection_timeout_ms")
  require (c.cacheTtl != 0) (.zero "configurer.cache_ttl_secs")
  require (!hasOuterSlash c.topicRoot) .rootEndsInSlash

end ServiceConfig

end ChargeController
