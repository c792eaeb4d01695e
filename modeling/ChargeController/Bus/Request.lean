import ChargeController.Register.Map
import ChargeController.Register.Words

/-!
# Requests on the bus

A request reads a row of registers or switches, writes one register, or writes a row of registers.
What can go wrong with one is a fault of the request, of the device, or of the link.
-/

namespace ChargeController

/-- One operation on the registers of a device. -/
inductive Request where
  | read (table : Table) (address quantity : UInt16)
  | writeWord (address value : UInt16)
  | writeWords (address : UInt16) (words : List UInt16)
deriving DecidableEq

namespace Request

/-- The first address that a request is about. -/
def address : Request → UInt16
  | read _ address _ => address
  | writeWord address _ => address
  | writeWords address _ => address

/-- The name of a request. -/
def name : Request → String
  | read .coil _ _ => "read coils"
  | read .discreteInput _ _ => "read discrete inputs"
  | read .holding _ _ => "read holding registers"
  | read .input _ _ => "read input registers"
  | writeWord _ _ => "write single register"
  | writeWords _ _ => "write multiple registers"

/-- Whether a request changes registers. -/
def isWrite : Request → Bool
  | read _ _ _ => false
  | writeWord _ _ => true
  | writeWords _ _ => true

end Request

/-- What is wrong with a request, whoever answers it. -/
inductive RequestFault where
  | payload (fault : RegisterFault)
  | quantityMismatch (quantity : UInt16) (words : Nat)
  | addressOverflow
deriving DecidableEq

/-- What a device refuses. -/
inductive DeviceFault where
  /-- The device was told to fail. -/
  | scripted (request : Request)
  | illegalAddress (address : UInt16)
deriving DecidableEq

/-- Why a request has no answer. -/
inductive BusFault where
  /-- The serial port could not be opened. -/
  | portMissing (port : String)
  | device (fault : DeviceFault)
  | timeout (milliseconds : Nat)
  | closed
  | invalid (fault : RequestFault)
deriving DecidableEq

/-- The wording of a fault in a request. -/
def RequestFault.message : RequestFault → String
  | .payload fault => fault.message
  | .quantityMismatch quantity words =>
      s!"quantity {quantity.toNat} does not match {words} registers of data"
  | .addressOverflow => "register address overflow"

/-- The wording of a refusal. -/
def DeviceFault.message : DeviceFault → String
  | .scripted request =>
      "scripted failure on " ++ request.name ++ " at " ++ Text.hexAddress request.address
  | .illegalAddress address => "illegal data address " ++ Text.hexAddress address

/-- The wording of a fault. -/
def BusFault.message : BusFault → String
  | .portMissing port => "failed to open serial port " ++ port ++ ": No such file or directory"
  | .device fault => "modbus transport error: " ++ fault.message
  | .timeout milliseconds => s!"request timed out after {milliseconds}ms"
  | .closed => "modbus client closed"
  | .invalid fault => "invalid request: " ++ fault.message

/-- The answer to a request: the bytes that were read, none for a write. -/
abbrev Answer := Except BusFault Bytes

/-- The request that writes `quantity` registers from their bytes. -/
def Request.ofBlock (address quantity : UInt16) (data : Bytes) : Except BusFault Request :=
  match Register.wordsOfBytes data with
  | .error fault => .error (.invalid (.payload fault))
  | .ok words =>
      if words.length = quantity.toNat then .ok (.writeWords address words)
      else .error (.invalid (.quantityMismatch quantity words.length))

end ChargeController
