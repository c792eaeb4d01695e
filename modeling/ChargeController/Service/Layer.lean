import ChargeController.Service.Config
import ChargeController.Text.Integer

/-!
# The environment as a layer

The environment says something about some of the settings.  It is a layer on top of a configuration,
each setting on its own.

* `ConfigLayer.onto` — a layer on top of a configuration.
* `ConfigLayer.ofEnvironment` — the layer of the environment variables.
-/

namespace ChargeController

/-- Settings that may be absent. -/
structure ConfigLayer where
  enabled : Option Bool
  deviceId : Option String
  controllerType : Option String
  serialPort : Option String
  baudRate : Option Nat
  slaveId : Option Nat
  timeout : Option Nat
  retryAttempts : Option Nat
  retryDelay : Option Nat
  pollInterval : Option Nat
  collectionTimeout : Option Nat
  strategy : Option Strategy
  recovery : Option Nat
  cacheTtl : Option Nat
  topicRoot : Option String

/-- The variables of an environment by name. -/
abbrev Environment := String → Option String

namespace ConfigLayer

/-- The settings of a layer where it has them, and those of a configuration elsewhere. -/
def onto (layer : ConfigLayer) (base : ServiceConfig) : ServiceConfig where
  enabled := layer.enabled.getD base.enabled
  identity := {
    deviceId := layer.deviceId.getD base.identity.deviceId
    controllerType := layer.controllerType.getD base.identity.controllerType }
  link := {
    serialPort := layer.serialPort.getD base.link.serialPort
    baudRate := layer.baudRate.getD base.link.baudRate
    slaveId := layer.slaveId.getD base.link.slaveId
    timeout := layer.timeout.getD base.link.timeout
    retryAttempts := layer.retryAttempts.getD base.link.retryAttempts
    retryDelay := layer.retryDelay.getD base.link.retryDelay }
  pollInterval := layer.pollInterval.getD base.pollInterval
  collectionTimeout := layer.collectionTimeout.getD base.collectionTimeout
  strategy := layer.strategy.getD base.strategy
  recovery := layer.recovery.getD base.recovery
  cacheTtl := layer.cacheTtl.getD base.cacheTtl
  topicRoot := layer.topicRoot.getD base.topicRoot

/-! ## The environment -/

/-- A truth value as variables hold it. -/
def readSwitch (s : String) : Option Bool :=
  if s = "true" then some true
  else if s = "false" then some false
  else none

/-- A truth value that chooses the strategy. -/
def readStrategy (s : String) : Option Strategy :=
  (readSwitch s).map fun batched => if batched then .batched else .sequential

/-- The layer of the environment variables; a variable that cannot be read says nothing. -/
def ofEnvironment (env : Environment) : ConfigLayer where
  enabled := (env "SOLAR_ENABLED").bind readSwitch
  deviceId := env "SOLAR_DEVICE_ID"
  controllerType := env "SOLAR_CONTROLLER_TYPE"
  serialPort := env "SOLAR_SERIAL_PORT"
  baudRate := (env "SOLAR_BAUD_RATE").bind (Text.decimal? UInt32.size)
  slaveId := (env "SOLAR_SLAVE_ID").bind (Text.decimal? UInt8.size)
  timeout := (env "SOLAR_MODBUS_TIMEOUT_MS").bind (Text.decimal? UInt64.size)
  retryAttempts := (env "SOLAR_RETRY_ATTEMPTS").bind (Text.decimal? UInt64.size)
  retryDelay := (env "SOLAR_RETRY_DELAY_MS").bind (Text.decimal? UInt64.size)
  pollInterval := (env "SOLAR_POLL_INTERVAL_MS").bind (Text.decimal? UInt64.size)
  collectionTimeout := (env "SOLAR_COLLECTION_TIMEOUT_MS").bind (Text.decimal? UInt64.size)
  strategy := (env "SOLAR_BATCHED_READS").bind readStrategy
  recovery := (env "SOLAR_READ_RECOVERY_MS").bind (Text.decimal? UInt64.size)
  cacheTtl := (env "SOLAR_CACHE_TTL_SECS").bind (Text.decimal? UInt64.size)
  topicRoot := env "SOLAR_TOPIC_PREFIX"

end ConfigLayer

end ChargeController
