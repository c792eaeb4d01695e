import ChargeController.Session.Talk

/-!
# Commands

A command is one thing that can be asked of a controller, or of the device behind it.  Each is a
task that ends with an outcome.

* `Controller` — how a controller is set up.
* `Command.talk` — what the task of a command does.
-/

namespace ChargeController.Session

/-- How a controller is set up; all times are in milliseconds. -/
structure Controller where
  identity : DeviceIdentity
  strategy : Strategy
  /-- The pause between two reads of a collection. -/
  recovery : Nat
  /-- The time between two collections. -/
  pollInterval : Nat
  /-- How long a collection may take. -/
  deadline : Nat
  /-- How long a configuration stays in the cache. -/
  ttl : Nat
  /-- The client in front of the device, if there is one. -/
  client : Option LinkSettings

/-- Something that is asked for. -/
inductive Command where
  /-- Nothing, for a while. -/
  | sleep (milliseconds : Nat)
  /-- A change to the script of the device. -/
  | script (change : Device → Device)
  /-- The word that a holding register has. -/
  | holdingWord (address : UInt16)
  /-- The writes that the device has received. -/
  | writes
  | read (table : Table) (address quantity : UInt16)
  | writeWord (address value : UInt16)
  | writeBlock (address quantity : UInt16) (data : Bytes)
  | close
  | retryPolicy
  | describeClient
  /-- A collection of its own, without the monitor. -/
  | status
  /-- A collection under the monitor. -/
  | collect
  | latest
  | identity
  | exposition
  /-- The configuration, straight from the device. -/
  | readConfig
  | invalidate
  | ttl
  | config
  | profile
  | charging
  | time
  | updateConfig (update : ConfigUpdate)
  | updateProfile (update : ProfileUpdate)
  | updateCharging (update : ChargingUpdate)
  | setTime (time : DateTime)
  | query (code : UInt8) (address : String)
  /-- A command whose argument could not be read. -/
  | unreadable

/-- A result, or why a request about settings has none. -/
abbrev Settled (α : Type) := Except SettingsFault α

/-- How a command ends. -/
inductive Outcome where
  | done
  | holdingWord (word : Option UInt16)
  | writes (requests : List Request)
  | read (answer : Answer)
  | written (answer : Answer)
  | retryPolicy (policy : Option Retries)
  | description (text : Option String)
  | status (result : Except CollectionFault Snapshot)
  | collected (outcome : CollectionResult)
  | latest (snapshot : Option Snapshot)
  | identity (identity : DeviceIdentity)
  | exposition (blocks : List String)
  | ttl (milliseconds : Nat)
  | config (result : Settled DeviceConfig)
  | profile (result : Settled BatteryProfile)
  | charging (result : Settled ChargingParameters)
  | time (result : Settled DateTime)
  | configUpdated (result : Settled (Settings.Confirmation DeviceConfig))
  | profileUpdated (result : Settled (Settings.Confirmation BatteryProfile))
  | chargingUpdated (result : Settled (Settings.Confirmation ChargingParameters))
  | timeSet (result : Settled (Settings.Confirmation DateTime))
  | queried (result : Settled QueryResult)
  | unreadable

namespace Command

/-- A block write; the request is refused before anything is sent if its bytes do not fit. -/
def writeBlockTalk (client : Option LinkSettings) (address quantity : UInt16) (data : Bytes) :
    Talk Answer :=
  match Request.ofBlock address quantity data with
  | .ok request => transport client request
  | .error fault => return .error fault

/-- What the task of a command does. -/
def talk (c : Controller) : Command → Talk Outcome
  | sleep milliseconds => do
      Session.sleep milliseconds
      return .done
  | script change => do
      act (.script change)
      return .done
  | holdingWord address => do
      let device : Device ← act .device
      return .holdingWord (device.holding address)
  | writes => do
      let device : Device ← act .device
      return .writes (device.received.reverse.filter Request.isWrite)
  | read table address quantity => .read <$> transport c.client (.read table address quantity)
  | writeWord address value => .written <$> transport c.client (.writeWord address value)
  | writeBlock address quantity data =>
      .written <$> writeBlockTalk c.client address quantity data
  | close => do
      Session.close c.client
      return .done
  | retryPolicy => return .retryPolicy (c.client.map .ofSettings)
  | describeClient => do
      let closed : Bool ← act .isClosed
      return .description (c.client.map fun s => Client.describe (.ofSettings s) s.timeout closed)
  | status => .status <$> collection c.client (Collection.collect c.strategy c.recovery)
  | collect =>
      .collected <$> collecting c.client c.deadline (Collection.collect c.strategy c.recovery)
  | latest => do
      let monitor : Monitor ← act .monitor
      return .latest monitor.latest
  | identity => return .identity c.identity
  | exposition => do
      let monitor : Monitor ← act .monitor
      return .exposition monitor.recorded.exposition
  | readConfig => .config <$> settings c.client Settings.readConfig
  | invalidate => do
      act .forget
      return .done
  | ttl => return .ttl c.ttl
  | config => .config <$> settings c.client Settings.cachedConfig
  | profile => .profile <$> settings c.client Settings.batteryProfile
  | charging => .charging <$> settings c.client Settings.chargingParameters
  | time => .time <$> settings c.client Settings.currentTime
  | updateConfig update => .configUpdated <$> settings c.client (Settings.updateConfig update)
  | updateProfile update => .profileUpdated <$> settings c.client (Settings.updateProfile update)
  | updateCharging update => .chargingUpdated <$> settings c.client (Settings.updateCharging update)
  | setTime moment => .timeSet <$> settings c.client (Settings.setTime moment)
  | query code address => .queried <$> settings c.client (Settings.query code address)
  | unreadable => return .unreadable

end Command

end ChargeController.Session
