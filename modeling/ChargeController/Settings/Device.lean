import ChargeController.Calendar.Written
import ChargeController.Settings.Charging

/-!
# The configuration of a device

Everything that the holding registers of a device hold, and the update that may change all of it
at once.  Both write the charging parameters among their own fields, and both are records that
only an object can be, read to its last member.
-/

namespace ChargeController

namespace DateTime

/-- The document of a moment. -/
def toJson (t : DateTime) : Json :=
  Json.ofText t.text

/-- Reads a moment. -/
def ofJson? (v : Json) : Option DateTime :=
  v.text?.bind ofText?

end DateTime

/-- The persistent configuration of a device. -/
structure DeviceConfig where
  /-- Absent when the clock registers name no moment. -/
  time : Option DateTime
  batteryType : BatteryType
  batteryCapacity : UInt16
  tempCompCoefficient : Single
  charging : ChargingParameters

/-- An update of the whole configuration; absent settings stay as they are. -/
structure ConfigUpdate where
  time : Option DateTime
  batteryType : Option BatteryType
  batteryCapacity : Option UInt16
  tempCompCoefficient : Option Single
  charging : ChargingUpdate

namespace DeviceConfig

/-- The battery's part of the configuration. -/
def profile (c : DeviceConfig) : BatteryProfile :=
  ⟨c.batteryType, c.batteryCapacity⟩

/-- The names of the fields that stand before the charging parameters. -/
def ownNames : List String :=
  ["time", "batteryType", "batteryCapacity", "tempCompCoefficient"]

/-- The names of all fields, in the order in which they are written. -/
def fieldNames : List String :=
  ownNames ++ ChargingParameters.fieldNames

/-- The written fields of a configuration. -/
def members (c : DeviceConfig) : List (String × Json) :=
  [("time", (c.time.map DateTime.toJson).getD .null),
    ("batteryType", c.batteryType.toJson),
    ("batteryCapacity", Json.ofNat c.batteryCapacity.toNat),
    ("tempCompCoefficient", Json.ofSingle c.tempCompCoefficient)]
    ++ c.charging.members

/-- The document of a configuration. -/
def toJson (c : DeviceConfig) : Json :=
  Json.ofMembers c.members

/-- Reads a configuration from the fields of a record; only the time may be missing. -/
def ofFields? (fields : Fields) : Option DeviceConfig := do
  return {
    time := ← fields.optional "time" DateTime.ofJson?
    batteryType := ← fields.required "batteryType" BatteryType.ofJson?
    batteryCapacity := ← fields.required "batteryCapacity" Json.word?
    tempCompCoefficient := ← fields.required "tempCompCoefficient" Json.single?
    charging := ← ChargingParameters.ofFields? fields }

/-- Reads a configuration, to its last member. -/
def ofJson? (v : Json) : Option DeviceConfig :=
  (v.wholeFields? fieldNames).bind ofFields?

end DeviceConfig

namespace ConfigUpdate

/-- Whether the update touches settings that belong to the user-defined battery type. -/
def touchesCharging (p : ConfigUpdate) : Bool :=
  p.tempCompCoefficient.isSome || !p.charging.isEmpty

/-- The written settings; absent ones are left out. -/
def members (p : ConfigUpdate) : List (String × Json) :=
  (p.time.map fun t => ("time", t.toJson)).toList
    ++ (p.batteryType.map fun t => ("batteryType", t.toJson)).toList
    ++ (p.batteryCapacity.map fun c => ("batteryCapacity", Json.ofNat c.toNat)).toList
    ++ (p.tempCompCoefficient.map fun x => ("tempCompCoefficient", Json.ofSingle x)).toList
    ++ p.charging.members

/-- The document of an update. -/
def toJson (p : ConfigUpdate) : Json :=
  Json.ofMembers p.members

/-- Reads an update from the fields of a record; missing and null settings are absent. -/
def ofFields? (fields : Fields) : Option ConfigUpdate := do
  return {
    time := ← fields.optional "time" DateTime.ofJson?
    batteryType := ← fields.optional "batteryType" BatteryType.ofJson?
    batteryCapacity := ← fields.optional "batteryCapacity" Json.word?
    tempCompCoefficient := ← fields.optional "tempCompCoefficient" Json.single?
    charging := ← ChargingUpdate.ofFields? fields }

/-- Reads an update, to its last member. -/
def ofJson? (v : Json) : Option ConfigUpdate :=
  (v.wholeFields? DeviceConfig.fieldNames).bind ofFields?

end ConfigUpdate

/-- What a diagnostic read of a single register was asked for, and what it found. -/
structure QueryResult where
  table : UInt8
  address : String
  result : UInt16
deriving DecidableEq

namespace QueryResult

/-- The names of the fields of a query. -/
def fieldNames : List String :=
  ["register", "address", "result"]

/-- The written fields of a query. -/
def members (q : QueryResult) : List (String × Json) :=
  [("register", Json.ofNat q.table.toNat), ("address", Json.ofText q.address),
    ("result", Json.ofNat q.result.toNat)]

/-- The document of a query. -/
def toJson (q : QueryResult) : Json :=
  Json.ofMembers q.members

/-- Reads a query from the fields of a record; without a result it is zero. -/
def ofFields? (fields : Fields) : Option QueryResult := do
  return {
    table := UInt8.ofNat (← fields.required "register" (Json.natural? UInt8.size))
    address := ← fields.required "address" Json.text?
    result := ← fields.withDefault "result" 0 Json.word? }

/-- Reads a query. -/
def ofJson? (v : Json) : Option QueryResult :=
  (v.fields? fieldNames).bind ofFields?

end QueryResult

end ChargeController
