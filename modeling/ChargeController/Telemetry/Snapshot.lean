import ChargeController.Json.Fields

/-!
# Snapshots

A snapshot is one complete read of the live registers.  There is no such thing as a part of one:
whatever is published or shown comes from a snapshot as a whole.
-/

namespace ChargeController

/-- One complete read of the live registers. -/
structure Snapshot where
  /-- Seconds since 1970 when the read started. -/
  timestamp : Int
  /-- Seconds spent reading. -/
  collectionTime : Double
  arrayVoltage : Single
  arrayCurrent : Single
  arrayPower : Single
  chargingCurrent : Single
  chargingPower : Single
  batteryVoltage : Single
  batteryCharge : UInt32
  batteryTemp : Single
  batteryMaxVoltage : Single
  batteryMinVoltage : Single
  deviceTemp : Single
  energyToday : Single
  chargingStatus : UInt32
deriving DecidableEq

namespace Snapshot

/-- The snapshot with nothing read. -/
def blank : Snapshot where
  timestamp := 0
  collectionTime := Binary.zero false
  arrayVoltage := Binary.zero false
  arrayCurrent := Binary.zero false
  arrayPower := Binary.zero false
  chargingCurrent := Binary.zero false
  chargingPower := Binary.zero false
  batteryVoltage := Binary.zero false
  batteryCharge := 0
  batteryTemp := Binary.zero false
  batteryMaxVoltage := Binary.zero false
  batteryMinVoltage := Binary.zero false
  deviceTemp := Binary.zero false
  energyToday := Binary.zero false
  chargingStatus := 0

/-- The written fields of a snapshot. -/
def members (s : Snapshot) : List (String × Json) :=
  [("timestamp", Json.ofInt s.timestamp),
    ("collectionTime", Json.ofDouble s.collectionTime),
    ("arrayVoltage", Json.ofSingle s.arrayVoltage),
    ("arrayCurrent", Json.ofSingle s.arrayCurrent),
    ("arrayPower", Json.ofSingle s.arrayPower),
    ("chargingCurrent", Json.ofSingle s.chargingCurrent),
    ("chargingPower", Json.ofSingle s.chargingPower),
    ("batteryVoltage", Json.ofSingle s.batteryVoltage),
    ("batterySoc", Json.ofNat s.batteryCharge.toNat),
    ("batteryTemp", Json.ofSingle s.batteryTemp),
    ("batteryMaxVoltage", Json.ofSingle s.batteryMaxVoltage),
    ("batteryMinVoltage", Json.ofSingle s.batteryMinVoltage),
    ("deviceTemp", Json.ofSingle s.deviceTemp),
    ("energyGeneratedDaily", Json.ofSingle s.energyToday),
    ("chargingStatus", Json.ofNat s.chargingStatus.toNat)]

/-- The document of a snapshot. -/
def toJson (s : Snapshot) : Json :=
  Json.ofMembers s.members

/-- The names of the fields, in the order in which they are written. -/
def fieldNames : List String :=
  blank.members.map (·.1)

/-- Reads a snapshot from the fields of a record. -/
def ofFields? (fields : Fields) : Option Snapshot := do
  let count (name : String) : Option UInt32 :=
    (fields.required name (Json.natural? UInt32.size)).map UInt32.ofNat
  return {
    timestamp := ← fields.required "timestamp" Json.integer?
    collectionTime := ← fields.required "collectionTime" Json.double?
    arrayVoltage := ← fields.required "arrayVoltage" Json.single?
    arrayCurrent := ← fields.required "arrayCurrent" Json.single?
    arrayPower := ← fields.required "arrayPower" Json.single?
    chargingCurrent := ← fields.required "chargingCurrent" Json.single?
    chargingPower := ← fields.required "chargingPower" Json.single?
    batteryVoltage := ← fields.required "batteryVoltage" Json.single?
    batteryCharge := ← count "batterySoc"
    batteryTemp := ← fields.required "batteryTemp" Json.single?
    batteryMaxVoltage := ← fields.required "batteryMaxVoltage" Json.single?
    batteryMinVoltage := ← fields.required "batteryMinVoltage" Json.single?
    deviceTemp := ← fields.required "deviceTemp" Json.single?
    energyToday := ← fields.required "energyGeneratedDaily" Json.single?
    chargingStatus := ← count "chargingStatus" }

/-- Reads a snapshot. -/
def ofJson? (v : Json) : Option Snapshot :=
  (v.fields? fieldNames).bind ofFields?

end Snapshot

end ChargeController
