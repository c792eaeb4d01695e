import ChargeController.Bus.Request
import ChargeController.Settings.Battery
import ChargeController.Settings.Validation
import ChargeController.Text.Integer
import ChargeController.Text.Quoted

/-!
# Faults of configuration requests

A request about the configuration fails because of the device and the link, or because of what was
asked for.  The second kind is the client's fault.
-/

namespace ChargeController

/-- What is wrong with a diagnostic query. -/
inductive QueryFault where
  | unknownTable (code : UInt8)
  | badAddress (text : String) (fault : Text.IntegerFault)
deriving DecidableEq

/-- Why a request about the configuration has no result. -/
inductive SettingsFault where
  | read (register : String) (address : UInt16) (source : BusFault)
  | write (register : String) (address value : UInt16) (source : BusFault)
  | decode (register : String) (address : UInt16) (source : RegisterFault)
  | refused (fault : ParameterFault)
  | notUserDefined (current : BatteryType)
  | unknownBatteryType
  | invalidQuery (fault : QueryFault)

/-- The wording of a fault in a query. -/
def QueryFault.message : QueryFault → String
  | .unknownTable code => s!"unknown register class {code.toNat}"
  | .badAddress text fault => "bad address " ++ Text.quoted text ++ ": " ++ fault.message

namespace SettingsFault

/-- A register as messages about settings name it. -/
def place (register : String) (address : UInt16) : String :=
  register ++ " (" ++ Text.hexAddress address ++ "): "

/-- The wording of a fault. -/
def message : SettingsFault → String
  | read register address source => "failed to read " ++ place register address ++ source.message
  | write register address value source =>
      "failed to write " ++ place (s!"{register} of {value.toNat}") address ++ source.message
  | decode register address source =>
      "failed to decode " ++ place register address ++ source.message
  | refused fault => fault.message
  | notUserDefined current =>
      "charging parameters can only be modified when battery type is 'userDefined' (current: "
        ++ current.title ++ ")"
  | unknownBatteryType => "unknown battery type"
  | invalidQuery fault => "invalid register query: " ++ fault.message

/-- Whether the fault lies in the request and not with the device or the link. -/
def isClientFault : SettingsFault → Bool
  | refused _ => true
  | notUserDefined _ => true
  | unknownBatteryType => true
  | invalidQuery _ => true
  | _ => false

end SettingsFault

end ChargeController
