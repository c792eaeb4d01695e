import ChargeController.Telemetry.Metric

/-!
# The exposition of gauges and counters

What a scraper of metrics gets to see: a gauge for each value of the snapshot recorded last, shown
as a wide float, and a counter for each kind of failure.  A gauge that was never set and a counter
that never counted are not shown.
-/

namespace ChargeController

/-- What has been recorded so far. -/
structure Recorded where
  failures : Nat
  writeFailures : Nat
  snapshots : Nat
  /-- The snapshot that the gauges were last set from. -/
  gauges : Option Snapshot

namespace Recorded

/-- Nothing recorded yet. -/
def nothing : Recorded := ⟨0, 0, 0, none⟩

/-- Counts a failed collection. -/
def countFailure (r : Recorded) : Recorded :=
  { r with failures := r.failures + 1 }

/-- Counts a failed write. -/
def countWriteFailure (r : Recorded) : Recorded :=
  { r with writeFailures := r.writeFailures + 1 }

/-- Sets the gauges. -/
def record (r : Recorded) (s : Snapshot) : Recorded :=
  { r with snapshots := r.snapshots + 1, gauges := some s }

end Recorded

/-- The gauges of a snapshot, by name. -/
def Snapshot.gauges (s : Snapshot) : List (String × MetricValue) :=
  [("solar_battery_max_voltage", .quantity s.batteryMaxVoltage),
    ("solar_battery_min_voltage", .quantity s.batteryMinVoltage),
    ("solar_battery_soc", .count s.batteryCharge),
    ("solar_battery_temp", .quantity s.batteryTemp),
    ("solar_battery_voltage", .quantity s.batteryVoltage),
    ("solar_charging_current", .quantity s.chargingCurrent),
    ("solar_charging_power", .quantity s.chargingPower),
    ("solar_charging_status", .count s.chargingStatus),
    ("solar_device_temp", .quantity s.deviceTemp),
    ("solar_energy_generated_daily", .quantity s.energyToday),
    ("solar_panel_current", .quantity s.arrayCurrent),
    ("solar_panel_power", .quantity s.arrayPower),
    ("solar_panel_voltage", .quantity s.arrayVoltage)]

/-- The block of one metric. -/
def exposedBlock (kind name value : String) : String :=
  "# TYPE " ++ name ++ " " ++ kind ++ "\n" ++ name ++ " " ++ value

/-- The block of a counter that has counted. -/
def counterBlock (name : String) (count : Nat) : List String :=
  if count = 0 then [] else [exposedBlock "counter" name (toString count)]

/-- All blocks, in alphabetical order. -/
def Recorded.exposition (r : Recorded) : List String :=
  (match r.gauges with
    | some s => s.gauges.map fun (name, value) => exposedBlock "gauge" name value.toDouble.plainText
    | none => [])
    ++ counterBlock "solar_read_failures" r.failures
    ++ counterBlock "solar_write_failures" r.writeFailures

end ChargeController
