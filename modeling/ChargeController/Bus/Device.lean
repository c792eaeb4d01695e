import ChargeController.Bus.Request

/-!
# A device that follows a script

A device holds four banks of registers and switches and answers requests at once.  It may be told
to fail at an address — always, a number of times, or for writes only — to answer reads of missing
registers, to answer a read with other bytes, and to take its time.

* `Device.Row` — a row of registers that can be set when the device is.
* `Device.respond` — the answer to a request, and the device after it.
-/

namespace ChargeController

/-- When requests that start at an address fail. -/
structure FailureRule where
  /-- How many more will fail; without a number, all. -/
  remaining : Option Nat
  writesOnly : Bool
deriving DecidableEq

/-- Registers by address; a missing one has no word. -/
abbrev Bank := UInt16 → Option UInt16

/-- Switches by address. -/
abbrev SwitchBank := UInt16 → Bool

/-- A device: its banks, its script, and the requests it has received, newest first. -/
structure Device where
  input : Bank
  holding : Bank
  coils : SwitchBank
  discrete : SwitchBank
  failures : UInt16 → Option FailureRule
  /-- What a missing register reads as, if it can be read. -/
  fill : Option UInt16
  /-- The bytes that a read from an address is answered with instead. -/
  overrides : UInt16 → Option Bytes
  /-- How long an answer takes, in milliseconds. -/
  delay : Nat
  received : List Request

namespace Device

/-- A device with nothing in it. -/
def empty : Device where
  input _ := none
  holding _ := none
  coils _ := false
  discrete _ := false
  failures _ := none
  fill := none
  overrides _ := none
  delay := 0
  received := []

/-! ## Banks -/

/-- Changes the value at one address. -/
def put {α : Type} (bank : UInt16 → α) (address : UInt16) (value : α) : UInt16 → α :=
  fun a => if a = address then value else bank a

theorem put_same {α : Type} (bank : UInt16 → α) (address : UInt16) (value : α) :
    put bank address value address = value :=
  if_pos rfl

theorem put_of_ne {α : Type} {bank : UInt16 → α} {address a : UInt16} {value : α}
    (h : a ≠ address) : put bank address value a = bank a :=
  if_neg h

/-- A row of registers to be set, with their words.  Its addresses are counted as it is set, and
counting goes on behind the row: to the address that follows it, and to the one after that.  Where
there is no such address, whoever counts has failed, and there is no row. -/
structure Row where
  address : UInt16
  words : List UInt16
  countable : address.toNat + words.length + 1 < UInt16.size

/-- The row of some words, if its addresses can be counted. -/
def Row.of? (address : UInt16) (words : List UInt16) : Option Row :=
  if countable : address.toNat + words.length + 1 < UInt16.size then
    some ⟨address, words, countable⟩
  else none

/-- In a row, the address behind the first register is one more. -/
theorem Row.countable_tail {address w : UInt16} {rest : List UInt16}
    (h : address.toNat + (w :: rest).length + 1 < UInt16.size) :
    (address + 1).toNat + rest.length + 1 < UInt16.size := by
  rw [List.length_cons] at h
  have hnext : (address + 1).toNat = address.toNat + 1 :=
    (UInt16.toNat_add address 1).trans (Nat.mod_eq_of_lt (by
      show address.toNat + 1 < UInt16.size
      omega))
  omega

/-- Sets registers one by one. -/
def putWords (bank : Bank) (address : UInt16) :
    (words : List UInt16) → address.toNat + words.length + 1 < UInt16.size → Bank
  | [], _ => bank
  | w :: rest, countable =>
      putWords (put bank address (some w)) (address + 1) rest (Row.countable_tail countable)

/-- Sets a row of registers. -/
def putRow (bank : Bank) (row : Row) : Bank :=
  putWords bank row.address row.words row.countable

/-- The address `offset` places after another, unless that is past the last one. -/
def offsetAddress? (address : UInt16) (offset : Nat) : Option UInt16 :=
  let sum := address.toNat + offset
  if sum < UInt16.size then some (UInt16.ofNat sum) else none

/-- The word of one register. -/
def readRegister (bank : Bank) (fill : Option UInt16) (address : UInt16) (offset : Nat) :
    Except BusFault UInt16 :=
  match offsetAddress? address offset with
  | none => .error (.invalid .addressOverflow)
  | some a =>
      match bank a <|> fill with
      | some w => .ok w
      | none => .error (.device (.illegalAddress a))

/-- The words of a row of registers. -/
def readRegisters (bank : Bank) (fill : Option UInt16) (address quantity : UInt16) :
    Except BusFault (List UInt16) :=
  (List.range quantity.toNat).mapM (readRegister bank fill address)

/-- The states of a row of switches; past the last address they are off. -/
def readSwitches (bank : SwitchBank) (address quantity : UInt16) : List Bool :=
  (List.range quantity.toNat).map fun offset =>
    ((offsetAddress? address offset).map bank).getD false

/-- Writes a row of registers, one by one; a row that runs past the last address is refused there,
and what was written stays. -/
def writeRow (bank : Bank) (address : UInt16) (offset : Nat) :
    List UInt16 → Bank × Except BusFault Unit
  | [] => (bank, .ok ())
  | w :: rest =>
      match offsetAddress? address offset with
      | none => (bank, .error (.invalid .addressOverflow))
      | some a => writeRow (put bank a (some w)) address (offset + 1) rest

/-! ## Answering -/

/-- Whether the script makes a request fail, and the script after it. -/
def useRule (d : Device) (r : Request) : Bool × Device :=
  match d.failures r.address with
  | none => (false, d)
  | some rule =>
      if rule.writesOnly && !r.isWrite then (false, d)
      else match rule.remaining with
        | none => (true, d)
        | some 0 => (false, d)
        | some (n + 1) =>
            let rest : FailureRule := { rule with remaining := some n }
            (true, { d with failures := put d.failures r.address (some rest) })

/-- What a request does to the banks of a device, and what they answer. -/
def perform (d : Device) : Request → Answer × Device
  | .read .input address quantity =>
      (Register.bytesOfWords <$> readRegisters d.input d.fill address quantity, d)
  | .read .holding address quantity =>
      (Register.bytesOfWords <$> readRegisters d.holding d.fill address quantity, d)
  | .read .coil address quantity =>
      (.ok (Register.packSwitches (readSwitches d.coils address quantity)), d)
  | .read .discreteInput address quantity =>
      (.ok (Register.packSwitches (readSwitches d.discrete address quantity)), d)
  | .writeWord address value =>
      (.ok [], { d with holding := put d.holding address (some value) })
  | .writeWords address words =>
      let (holding, outcome) := writeRow d.holding address 0 words
      ((fun _ => []) <$> outcome, { d with holding })

/-- The bytes that a successful read is answered with. -/
def override (d : Device) (r : Request) (bytes : Bytes) : Bytes :=
  if r.isWrite then bytes else (d.overrides r.address).getD bytes

/-- The answer to a request, which is noted before anything else happens. -/
def respond (d : Device) (r : Request) : Answer × Device :=
  let noted := { d with received := r :: d.received }
  let (fails, d) := useRule noted r
  if fails then (.error (.device (.scripted r)), d)
  else
    let (answer, d) := perform d r
    (d.override r <$> answer, d)

/-! ## Changing the script -/

/-- Sets the rule for an address; a later rule replaces it. -/
def setFailure (d : Device) (address : UInt16) (rule : FailureRule) : Device :=
  { d with failures := put d.failures address (some rule) }

/-- Every request that starts at an address fails. -/
def failAlways (d : Device) (address : UInt16) : Device :=
  d.setFailure address ⟨none, false⟩

/-- The next requests that start at an address fail. -/
def failNext (d : Device) (address : UInt16) (times : Nat) : Device :=
  d.setFailure address ⟨some times, false⟩

/-- Writes that start at an address fail. -/
def failWrites (d : Device) (address : UInt16) : Device :=
  d.setFailure address ⟨none, true⟩

/-- Sets a row of input registers. -/
def setInput (d : Device) (row : Row) : Device :=
  { d with input := putRow d.input row }

/-- Sets a row of holding registers. -/
def setHolding (d : Device) (row : Row) : Device :=
  { d with holding := putRow d.holding row }

end Device

end ChargeController
