import ChargeController.Dialogue
import ChargeController.Register.Clock
import ChargeController.Settings.Cache
import ChargeController.Settings.Fault

/-!
# Reading and changing the configuration

Each request about the configuration is a procedure: a dialogue with the bus and the cache that
may end in a fault.  An update is checked against the whole proposed configuration before its
first write, its writes stop at the first one that fails, and the cache is forgotten once they are
done; the new state is then read back, and a failure to do so does not undo the update.

* `cachedConfig` — the configuration, from the cache or from the six blocks of the device.
* `updateConfig`, `updateProfile`, `updateCharging`, `setTime` — the updates.
* `query` — a diagnostic read of one register.
-/

namespace ChargeController.Settings

/-! ## Questions -/

/-- What a procedure asks of the bus, the cache and the counters. -/
inductive Ask where
  | send (request : Request)
  | lookUp
  | keep (generation : UInt64) (config : DeviceConfig)
  | forget
  | countWriteFailure

/-- The replies. -/
def Reply : Ask → Type
  | .send _ => Answer
  | .lookUp => Recall
  | .keep _ _ => Unit
  | .forget => Unit
  | .countWriteFailure => Unit

/-- A dialogue about the configuration that may end in a fault. -/
abbrev Procedure := ExceptT SettingsFault (Dialogue Ask Reply)

/-- Asks one question. -/
def ask (q : Ask) : Procedure (Reply q) :=
  ExceptT.lift (Dialogue.question q)

/-- Sends a request. -/
def send (r : Request) : Procedure Answer :=
  ask (.send r)

/-- The result of an update whose writes were all accepted. -/
inductive Confirmation (α : Type) where
  /-- The new state, read back from the device. -/
  | confirmed (value : α)
  /-- The new state could not be read back. -/
  | unconfirmed (what : String)

namespace Confirmation

/-- The same outcome about a part of the state. -/
def map {α β : Type} (f : α → β) : Confirmation α → Confirmation β
  | confirmed value => confirmed (f value)
  | unconfirmed what => unconfirmed what

/-- The wording of an unconfirmed outcome. -/
def unconfirmedText (what : String) : String :=
  what ++ " updated but failed to read back"

end Confirmation

/-! ## Reading -/

/-- The bytes of a register. -/
def readRegister (r : Register) : Procedure Bytes := do
  match ← send (.read r.table r.address r.quantity) with
  | .ok data => return data
  | .error source => throw (.read r.name r.address source)

/-- The value of a register's bytes. -/
def decoded {α : Type} (r : Register) (result : Except RegisterFault α) : Procedure α :=
  match result with
  | .ok value => return value
  | .error source => throw (.decode r.name r.address source)

/-- The value at a place of a row that is long enough. -/
def valueAt (row : List Single) (block r : Register) : Single :=
  row.getD (block.offsetIn r) (Binary.zero false)

/-- The moment in the clock's bytes; a date that does not exist is none. -/
def clockTime (data : Bytes) : Procedure (Option DateTime) :=
  match Register.readClock data with
  | .ok time => return some time
  | .error (.noSuchMoment ..) => return none
  | .error source => throw (.decode Register.deviceClock.name Register.deviceClock.address source)

/-- Reads the whole configuration from the device, in six blocks. -/
def readConfig : Procedure DeviceConfig := do
  let data ← readRegister Register.batterySettings
  let identity ← decoded Register.batterySettings (Register.readWords "ints" 2 data)
  let tempComp ← decoded Register.batterySettings
    (Register.slice data 2 1 >>= Register.readScaled)
  let data ← readRegister Register.deviceClock
  let time ← clockTime data
  let data ← readRegister Register.voltageThresholds
  let volts ← decoded Register.voltageThresholds (Register.readScaledRow 12 data)
  let data ← readRegister Register.equalizationCycle
  let cycle ← decoded Register.equalizationCycle (Register.readWord "int" data)
  let data ← readRegister Register.chargeDurations
  let durations ← decoded Register.chargeDurations (Register.readWords "ints" 2 data)
  let data ← readRegister Register.temperatureLimits
  let limits ← decoded Register.temperatureLimits (Register.readSignedScaledRow 4 data)
  return {
    time
    batteryType := BatteryType.ofCode (identity.getD 0 0).toNat
    batteryCapacity := identity.getD 1 0
    tempCompCoefficient := tempComp
    charging := {
      period := fun
        | .boost => durations.getD 1 0
        | .equalizationCycle => cycle
        | .equalization => durations.getD 0 0
      threshold := fun x => valueAt volts Register.voltageThresholds x.register
      limit := fun x => valueAt limits Register.temperatureLimits x.register } }

/-- The configuration from the cache, or else from the device, which is then kept. -/
def cachedConfig : Procedure DeviceConfig := do
  match ← ask .lookUp with
  | .fresh config => return config
  | .stale generation =>
      let config ← readConfig
      ask (.keep generation config)
      return config

/-- Forgets the cached configuration. -/
def invalidate : Procedure Unit :=
  ask .forget

/-- The battery type, straight from the device. -/
def currentBatteryType : Procedure BatteryType := do
  let data ← readRegister Register.batteryType
  let code ← decoded Register.batteryType (Register.readWord "int" data)
  return BatteryType.ofCode code.toNat

/-- The battery's part of the configuration. -/
def batteryProfile : Procedure BatteryProfile := do
  return (← cachedConfig).profile

/-- The charging parameters. -/
def chargingParameters : Procedure ChargingParameters := do
  return (← cachedConfig).charging

/-- The device's clock, straight from the device. -/
def currentTime : Procedure DateTime := do
  let data ← readRegister Register.deviceClock
  decoded Register.deviceClock (Register.readClock data)

/-! ## Writing -/

/-- Accepts the answer to a write; a write that failed is counted. -/
def accepted (r : Register) (value : UInt16) (answer : Answer) : Procedure Unit := do
  match answer with
  | .ok _ => return ()
  | .error source =>
      ask .countWriteFailure
      throw (.write r.name r.address value source)

/-- Writes one register. -/
def writeRegister (w : RegisterWrite) : Procedure Unit := do
  let answer ← send (.writeWord w.register.address w.value)
  accepted w.register w.value answer

/-- Writes registers in order, up to the first write that fails. -/
def writeAll : List RegisterWrite → Procedure Unit
  | [] => return ()
  | w :: rest => do
      writeRegister w
      writeAll rest

/-- Writes the battery type; the unknown type cannot be written. -/
def storeBatteryType (t : BatteryType) : Procedure Unit :=
  match t.code? with
  | some code => writeRegister ⟨Register.batteryType, code⟩
  | none => throw .unknownBatteryType

/-- Writes the clock. -/
def storeClock (t : DateTime) : Procedure Unit := do
  let clock := Register.deviceClock
  let bytes ← decoded clock (Register.clockBytes t)
  let answer : Answer ←
    match Request.ofBlock clock.address clock.quantity bytes with
    | .ok request => send request
    | .error fault => pure (.error fault)
  accepted clock 0 answer

/-! ## Updating -/

/-- Goes on unless a check has refused. -/
def allowed (check : Except ParameterFault Unit) : Procedure Unit :=
  match check with
  | .ok () => return ()
  | .error fault => throw (.refused fault)

/-- Refuses an update that would break the configuration it is applied to. -/
def checkProposal (p : ChargingUpdate) : Procedure Unit := do
  let current ← cachedConfig
  let proposed := p.onto current.charging
  allowed proposed.checkRanges
  allowed proposed.checkOrder

/-- Refuses charging parameters for any but the user-defined battery type. -/
def requireUserDefined (t : BatteryType) : Procedure Unit :=
  if t.isUserDefined then return () else throw (.notUserDefined t)

/-- The state after an update, or that it could not be read back. -/
def confirm {α : Type} (what : String) (read : Procedure α) : Procedure (Confirmation α) :=
  tryCatch (do return .confirmed (← read)) fun _ => return .unconfirmed what

/-- Forgets the cached configuration if anything was written. -/
def invalidateIf (wrote : Bool) : Procedure Unit :=
  if wrote then invalidate else return ()

/-- The part of an update that concerns the battery type; a new type is written at once. -/
def updateBatteryType (p : ConfigUpdate) : Procedure Unit :=
  match p.batteryType with
  | some t => do
      storeBatteryType t
      invalidate
  | none => return ()

/-- Refuses charging parameters that the battery type or the checks do not allow. -/
def checkCharging (p : ConfigUpdate) : Procedure Unit := do
  if p.touchesCharging then
    let t ←
      match p.batteryType with
      | some t => pure t
      | none => currentBatteryType
    requireUserDefined t
    checkProposal p.charging

/-- The register writes of an update, apart from the battery type and the clock. -/
def updateWrites (p : ConfigUpdate) : List RegisterWrite :=
  (p.batteryCapacity.map RegisterWrite.ofCapacity).toList
    ++ (p.tempCompCoefficient.map RegisterWrite.ofTempComp).toList
    ++ p.charging.writes

/-- Updates the whole configuration.  A new battery type is written first, and charging parameters
are accepted only if the type is then the user-defined one. -/
def updateConfig (p : ConfigUpdate) : Procedure (Confirmation DeviceConfig) := do
  if let some coefficient := p.tempCompCoefficient then
    allowed (checkTempComp coefficient)
  updateBatteryType p
  checkCharging p
  writeAll (updateWrites p)
  if let some time := p.time then
    storeClock time
  invalidateIf (!(updateWrites p).isEmpty || p.time.isSome)
  confirm "configuration" cachedConfig

/-- Updates battery type and capacity, whatever the battery type is. -/
def updateProfile (p : ProfileUpdate) : Procedure (Confirmation BatteryProfile) := do
  if p.batteryType = some .unknown then
    throw .unknownBatteryType
  if let some t := p.batteryType then
    storeBatteryType t
  if let some capacity := p.capacity then
    writeRegister (RegisterWrite.ofCapacity capacity)
  invalidateIf (p.batteryType.isSome || p.capacity.isSome)
  confirm "profile" batteryProfile

/-- Updates charging parameters; the battery type is asked of the device, not of the cache. -/
def updateCharging (p : ChargingUpdate) : Procedure (Confirmation ChargingParameters) := do
  requireUserDefined (← currentBatteryType)
  checkProposal p
  writeAll p.writes
  invalidateIf (!p.writes.isEmpty)
  confirm "parameters" chargingParameters

/-- Sets the device's clock. -/
def setTime (t : DateTime) : Procedure (Confirmation DateTime) := do
  storeClock t
  invalidate
  confirm "time" currentTime

/-! ## Diagnostics -/

/-- The hexadecimal address in a text, which may have blanks around it and a mark before it. -/
def readAddress (text : String) : Except Text.IntegerFault UInt16 :=
  let digits :=
    match Text.trim text.toList with
    | '0' :: 'x' :: rest => rest
    | '0' :: 'X' :: rest => rest
    | s => s
  UInt16.ofNat <$> Text.readUnsigned 16 UInt16.size digits

/-- The name under which a queried register appears in faults. -/
def queriedName : String := "queried register"

/-- The first switch of an answer. -/
def firstSwitch : Bytes → Except RegisterFault UInt16
  | byte :: _ => .ok (byte.toUInt16 &&& 1)
  | [] => .error (.tooShort "bit" 1 0)

/-- The value of a single register or switch. -/
def queriedValue (table : Table) (data : Bytes) : Except RegisterFault UInt16 :=
  match table with
  | .coil => firstSwitch data
  | .discreteInput => firstSwitch data
  | .holding => Register.readWord "int" data
  | .input => Register.readWord "int" data

/-- Reads one register or switch of any table. -/
def query (code : UInt8) (address : String) : Procedure QueryResult := do
  match Table.ofCode? code.toNat, readAddress address with
  | none, _ => throw (.invalidQuery (.unknownTable code))
  | some _, .error fault => throw (.invalidQuery (.badAddress address fault))
  | some table, .ok a =>
      match ← send (.read table a 1) with
      | .error source => throw (.read queriedName a source)
      | .ok data =>
          match queriedValue table data with
          | .error source => throw (.decode queriedName a source)
          | .ok result => return ⟨code, address, result⟩

end ChargeController.Settings
