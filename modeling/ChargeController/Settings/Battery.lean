import ChargeController.Json.Fields

/-!
# Battery types and profiles

The battery type selects the charging profile that the device follows.  Custom charging
parameters belong to the user-defined type alone.
-/

namespace ChargeController

namespace Json

/-- The name of a variant without contents: a text, or an object whose one member is null. -/
def variant? : Json → Option String
  | .string pieces => Piece.text? pieces
  | .object [(key, .null)] => Piece.text? key
  | _ => none

end Json

/-- What kind of battery is connected. -/
inductive BatteryType where
  | sealed
  | gel
  | flooded
  | userDefined
  | unknown
deriving DecidableEq

namespace BatteryType

/-- The type with a given number; a number without a type is unknown. -/
def ofCode (code : Nat) : BatteryType :=
  match code with
  | 1 => sealed
  | 2 => gel
  | 3 => flooded
  | 4 => userDefined
  | _ => unknown

/-- The number of a type, which the unknown type has not. -/
def code? : BatteryType → Option UInt16
  | sealed => some 1
  | gel => some 2
  | flooded => some 3
  | userDefined => some 4
  | unknown => none

/-- The name of a type in documents. -/
def name : BatteryType → String
  | sealed => "sealed"
  | gel => "gel"
  | flooded => "flooded"
  | userDefined => "userDefined"
  | unknown => "unknown"

/-- The name of a type in messages. -/
def title : BatteryType → String
  | sealed => "Sealed"
  | gel => "Gel"
  | flooded => "Flooded"
  | userDefined => "UserDefined"
  | unknown => "Unknown"

/-- The type with a given name; a name without a type is unknown. -/
def ofName (s : String) : BatteryType :=
  if s = "sealed" then sealed
  else if s = "gel" then gel
  else if s = "flooded" then flooded
  else if s = "userDefined" then userDefined
  else unknown

/-- Only this type accepts custom charging parameters. -/
def isUserDefined (t : BatteryType) : Bool :=
  t == userDefined

/-- The document of a type. -/
def toJson (t : BatteryType) : Json :=
  Json.ofText t.name

/-- Reads a type. -/
def ofJson? (v : Json) : Option BatteryType :=
  v.variant?.map ofName

end BatteryType

/-- Battery type and capacity. -/
structure BatteryProfile where
  batteryType : BatteryType
  capacity : UInt16
deriving DecidableEq

namespace BatteryProfile

/-- The fields of a written profile. -/
def fieldNames : List String :=
  ["batteryType", "batteryCapacity"]

/-- The written fields of a profile. -/
def members (p : BatteryProfile) : List (String × Json) :=
  [("batteryType", p.batteryType.toJson), ("batteryCapacity", Json.ofNat p.capacity.toNat)]

/-- The document of a profile. -/
def toJson (p : BatteryProfile) : Json :=
  Json.ofMembers p.members

/-- Reads a profile from the fields of a record. -/
def ofFields? (fields : Fields) : Option BatteryProfile := do
  return {
    batteryType := ← fields.required "batteryType" BatteryType.ofJson?
    capacity := ← fields.required "batteryCapacity" Json.word? }

/-- Reads a profile. -/
def ofJson? (v : Json) : Option BatteryProfile :=
  (v.fields? fieldNames).bind ofFields?

end BatteryProfile

/-- A partial update of a profile. -/
structure ProfileUpdate where
  batteryType : Option BatteryType
  capacity : Option UInt16
deriving DecidableEq

namespace ProfileUpdate

/-- The written fields of an update; absent ones are left out. -/
def members (p : ProfileUpdate) : List (String × Json) :=
  (p.batteryType.map fun t => ("batteryType", t.toJson)).toList
    ++ (p.capacity.map fun c => ("batteryCapacity", Json.ofNat c.toNat)).toList

/-- The document of an update. -/
def toJson (p : ProfileUpdate) : Json :=
  Json.ofMembers p.members

/-- Reads an update from the fields of a record. -/
def ofFields? (fields : Fields) : Option ProfileUpdate := do
  return {
    batteryType := ← fields.optional "batteryType" BatteryType.ofJson?
    capacity := ← fields.optional "batteryCapacity" Json.word? }

/-- Reads an update. -/
def ofJson? (v : Json) : Option ProfileUpdate :=
  (v.fields? BatteryProfile.fieldNames).bind ofFields?

end ProfileUpdate

end ChargeController
