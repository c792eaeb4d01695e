import ChargeController.Telemetry.Identity
import ChargeController.Telemetry.Snapshot

/-!
# Metrics

A snapshot is published as fourteen metrics, in a fixed order and all with the snapshot's time.
A collection that fails is published as a metric too.
-/

namespace ChargeController

/-- The value of a metric. -/
inductive MetricValue where
  | quantity (x : Single)
  | count (n : UInt32)
  | seconds (x : Double)
deriving DecidableEq

namespace MetricValue

/-- A value as a wide float. -/
def toDouble : MetricValue → Double
  | quantity x => x.convert Format.double
  | count n => Binary.ofNat n.toNat
  | seconds x => x

/-- The document of a value. -/
def toJson : MetricValue → Json
  | quantity x => Json.ofSingle x
  | count n => Json.ofNat n.toNat
  | seconds x => Json.ofDouble x

end MetricValue

/-- A named value. -/
structure Metric where
  name : String
  value : MetricValue
  unit : String
  timestamp : Int
deriving DecidableEq

namespace Metric

/-- The metric of a failed collection. -/
def ofFailure (timestamp : Int) : Metric :=
  ⟨"collection-failure", .count 1, "count", timestamp⟩

/-- What is published for a metric. -/
def payload (m : Metric) : String :=
  (Json.ofMembers [("value", m.value.toJson), ("unit", Json.ofText m.unit),
    ("timestamp", Json.ofInt m.timestamp)]).render

end Metric

/-- A published text and the topic it is published under. -/
structure Message where
  topic : String
  payload : String
deriving DecidableEq

/-- The message of a metric. -/
def DeviceIdentity.message (d : DeviceIdentity) (m : Metric) : Message :=
  ⟨d.topic m.name, m.payload⟩

/-- The metrics of a snapshot. -/
def Snapshot.metrics (s : Snapshot) : List Metric :=
  [("array-voltage", .quantity s.arrayVoltage, "volts"),
    ("array-current", .quantity s.arrayCurrent, "amperes"),
    ("array-power", .quantity s.arrayPower, "watts"),
    ("charging-current", .quantity s.chargingCurrent, "amperes"),
    ("charging-power", .quantity s.chargingPower, "watts"),
    ("battery-voltage", .quantity s.batteryVoltage, "volts"),
    ("battery-soc", .count s.batteryCharge, "percent"),
    ("battery-temp", .quantity s.batteryTemp, "celsius"),
    ("battery-max-voltage", .quantity s.batteryMaxVoltage, "volts"),
    ("battery-min-voltage", .quantity s.batteryMinVoltage, "volts"),
    ("device-temp", .quantity s.deviceTemp, "celsius"),
    ("energy-generated-daily", .quantity s.energyToday, "kilowatt-hours"),
    ("charging-status", .count s.chargingStatus, "code"),
    ("collection-time", .seconds s.collectionTime, "seconds")].map
    fun (name, value, unit) => ⟨name, value, unit, s.timestamp⟩

end ChargeController
