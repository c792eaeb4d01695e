import ChargeController.Bus.Request
import ChargeController.Dialogue
import ChargeController.Register.Value
import ChargeController.Telemetry.Snapshot

/-!
# Collecting a snapshot

A collection reads a fixed list of register groups and fills in a snapshot from each answer.  The
list depends on the strategy: one request per group, or one long request for the groups that lie
close together and single requests for the rest.  The device is given time to recover between two
reads.  The first answer that is a fault or too short ends the collection.

* `Strategy.plan` — the requests of a strategy, each with what its answer contributes.
* `collect` — the dialogue.
-/

namespace ChargeController

/-- How the live registers are read. -/
inductive Strategy where
  /-- One request per register group. -/
  | sequential
  /-- One request for everything up to the temperatures, then the scattered registers. -/
  | batched
deriving DecidableEq

namespace Strategy

/-- The name of a strategy in documents. -/
def name : Strategy → String
  | sequential => "sequential"
  | batched => "batched"

/-- The strategy with a given name. -/
def ofName? (s : String) : Option Strategy :=
  if s = "sequential" then some sequential
  else if s = "batched" then some batched
  else none

end Strategy

/-- Why a collection has no snapshot. -/
inductive CollectionFault where
  | read (register : Register) (source : BusFault)
  | decode (register : Register) (source : RegisterFault)
deriving DecidableEq

namespace CollectionFault

/-- The register that a fault is about. -/
def register : CollectionFault → Register
  | read r _ => r
  | decode r _ => r

/-- The wording of a fault. -/
def message : CollectionFault → String
  | read r source =>
      "failed to read " ++ r.name ++ " at " ++ Text.hexAddress r.address ++ ": " ++ source.message
  | decode r source =>
      "failed to decode " ++ r.name ++ " at " ++ Text.hexAddress r.address ++ ": "
        ++ source.message

end CollectionFault

namespace Collection

/-! ## What an answer contributes -/

/-- A register group and what its bytes say about the snapshot. -/
structure Reading where
  register : Register
  absorb : Bytes → Snapshot → Except RegisterFault Snapshot

/-- A register group whose bytes are decoded to a value that is then stored. -/
def Reading.of {α : Type} (register : Register) (decode : Bytes → Except RegisterFault α)
    (store : α → Snapshot → Snapshot) : Reading where
  register
  absorb data s := (fun a => store a s) <$> decode data

/-- The value at a place of a row that is long enough. -/
def valueAt (row : List Single) (i : Nat) : Single :=
  row.getD i (Binary.zero false)

/-- Bits two and three of the controller status. -/
def chargingStatus (status : UInt32) : UInt32 :=
  (status &&& 0x0C) >>> 2

def arrayInput : Reading :=
  .of Register.arrayInput (Register.readScaledRow 2) fun row s =>
    { s with arrayVoltage := valueAt row 0, arrayCurrent := valueAt row 1 }

def arrayPower : Reading :=
  .of Register.arrayPower Register.readScaledPair fun x s => { s with arrayPower := x }

def batteryVoltage : Reading :=
  .of Register.batteryVoltage Register.readScaled fun x s => { s with batteryVoltage := x }

def chargingCurrent : Reading :=
  .of Register.chargingCurrent Register.readScaled fun x s => { s with chargingCurrent := x }

def chargingPower : Reading :=
  .of Register.chargingPower Register.readScaledPair fun x s => { s with chargingPower := x }

def temperatures : Reading :=
  .of Register.temperatures Register.readTemperatures fun x s =>
    { s with batteryTemp := x.1, deviceTemp := x.2 }

def batteryCharge : Reading :=
  .of Register.batteryCharge Register.readCount fun n s => { s with batteryCharge := n }

def batteryExtremes : Reading :=
  .of Register.batteryExtremes (Register.readScaledRow 2) fun row s =>
    { s with batteryMaxVoltage := valueAt row 0, batteryMinVoltage := valueAt row 1 }

def energyToday : Reading :=
  .of Register.energyToday Register.readScaledPair fun x s => { s with energyToday := x }

def controllerStatus : Reading :=
  .of Register.controllerStatus Register.readCount fun n s =>
    { s with chargingStatus := chargingStatus n }

/-- What the bytes of a group say about a snapshot; a fault names the group. -/
def Reading.take (r : Reading) (data : Bytes) (s : Snapshot) : Except CollectionFault Snapshot :=
  (r.absorb data s).mapError (.decode r.register)

/-- The same for a group inside a longer block. -/
def Reading.takeFrom (r : Reading) (block : Register) (data : Bytes) (s : Snapshot) :
    Except CollectionFault Snapshot :=
  match Register.slice data (block.offsetIn r.register) r.register.quantity.toNat with
  | .ok bytes => r.take bytes s
  | .error fault => .error (.decode r.register fault)

/-! ## The requests of a strategy -/

/-- One request, and what its answer contributes. -/
structure Step where
  register : Register
  absorb : Bytes → Snapshot → Except CollectionFault Snapshot

/-- A request for one group. -/
def Step.single (r : Reading) : Step :=
  ⟨r.register, r.take⟩

/-- A request for a block that holds several groups. -/
def Step.block (block : Register) (readings : List Reading) : Step where
  register := block
  absorb data s := readings.foldlM (fun s r => r.takeFrom block data s) s

/-- The groups inside the telemetry block, in the order in which they are taken from it. -/
def blockReadings : List Reading :=
  [arrayInput, arrayPower, batteryVoltage, chargingCurrent, chargingPower, temperatures]

end Collection

open Collection in
/-- The requests of a strategy, in order. -/
def Strategy.plan : Strategy → List Step
  | sequential =>
      [arrayInput, batteryVoltage, batteryCharge, batteryExtremes, arrayPower, chargingCurrent,
        chargingPower, energyToday, controllerStatus, temperatures].map Step.single
  | batched =>
      Step.block Register.telemetryBlock blockReadings
        :: [batteryCharge, batteryExtremes, energyToday, controllerStatus].map Step.single

namespace Collection

/-! ## The dialogue -/

/-- What a collection asks for. -/
inductive Ask where
  | send (request : Request)
  | pause (milliseconds : Nat)
  /-- The time in milliseconds, from any start. -/
  | now
  /-- Seconds since 1970. -/
  | unixTime

/-- The replies. -/
def Reply : Ask → Type
  | .send _ => Answer
  | .pause _ => Unit
  | .now => Nat
  | .unixTime => Int

/-- A dialogue that may end in a fault. -/
abbrev Procedure := ExceptT CollectionFault (Dialogue Ask Reply)

/-- Asks one question. -/
def ask (q : Ask) : Procedure (Reply q) :=
  ExceptT.lift (Dialogue.question q)

/-- The bytes of a register. -/
def readRegister (r : Register) : Procedure Bytes := do
  match ← ask (.send (.read r.table r.address r.quantity)) with
  | .ok data => return data
  | .error source => throw (.read r source)

/-- Lets the device recover. -/
def recover (recovery : Nat) : Procedure Unit :=
  if recovery = 0 then return () else ask (.pause recovery)

/-- Fills a snapshot by the given requests, with a pause between two of them. -/
def fill (recovery : Nat) : List Step → Snapshot → Procedure Snapshot
  | [], s => return s
  | [step], s => do
      let data ← readRegister step.register
      liftExcept (step.absorb data s)
  | step :: next :: rest, s => do
      let data ← readRegister step.register
      let s ← liftExcept (step.absorb data s)
      recover recovery
      fill recovery (next :: rest) s
where
  /-- A result that may be a fault. -/
  liftExcept {α : Type} (result : Except CollectionFault α) : Procedure α :=
    ExceptT.mk (pure result)

/-- A span of milliseconds in seconds: the whole seconds, and the rest counted in billionths. -/
def seconds (milliseconds : Nat) : Double :=
  Binary.ofNat (milliseconds / 1000)
    + Binary.ofNat (milliseconds % 1000 * 1000000) / Binary.ofNat 1000000000

/-- Reads all live registers. -/
def collect (strategy : Strategy) (recovery : Nat) : Procedure Snapshot := do
  let started : Nat ← ask .now
  let timestamp : Int ← ask .unixTime
  let s ← fill recovery strategy.plan { Snapshot.blank with timestamp }
  let ended : Nat ← ask .now
  return { s with collectionTime := seconds (ended - started) }

end Collection

end ChargeController
