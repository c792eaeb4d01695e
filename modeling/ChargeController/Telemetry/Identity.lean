import ChargeController.Json.Fields

/-!
# Who a reading belongs to

Readings are published under topics: the device, the type of its controller and the name of the
reading, with slashes between them, and a common root before all of it if there is one.
-/

namespace ChargeController

/-- The names under which a device publishes. -/
structure DeviceIdentity where
  deviceId : String
  controllerType : String
deriving DecidableEq

namespace DeviceIdentity

/-- The topic of a reading, below any common root. -/
def topic (d : DeviceIdentity) (reading : String) : String :=
  d.deviceId ++ "/" ++ d.controllerType ++ "/" ++ reading

/-- The names of the fields of an identity. -/
def fieldNames : List String :=
  ["deviceId", "controllerType"]

/-- The written fields of an identity. -/
def members (d : DeviceIdentity) : List (String × Json) :=
  [("deviceId", Json.ofText d.deviceId), ("controllerType", Json.ofText d.controllerType)]

/-- The document of an identity. -/
def toJson (d : DeviceIdentity) : Json :=
  Json.ofMembers d.members

/-- Reads an identity from the fields of a record. -/
def ofFields? (fields : Fields) : Option DeviceIdentity := do
  return {
    deviceId := ← fields.required "deviceId" Json.text?
    controllerType := ← fields.required "controllerType" Json.text? }

/-- Reads an identity. -/
def ofJson? (v : Json) : Option DeviceIdentity :=
  (v.fields? fieldNames).bind ofFields?

end DeviceIdentity

/-- A topic below a common root; an empty root adds nothing. -/
def rootedTopic (root topic : String) : String :=
  if root.isEmpty then topic else root ++ "/" ++ topic

end ChargeController
