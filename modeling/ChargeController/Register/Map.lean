/-!
# The register map of the charge controller

Every register and block of registers that is read or written, with its address, its length and
the way its words are to be understood.  Live readings are input registers; settings are holding
registers.
-/

namespace ChargeController

/-- The four address spaces of a device. -/
inductive Table where
  | coil
  | discreteInput
  | holding
  | input
deriving DecidableEq

/-- The address space with a given number. -/
def Table.ofCode? (code : Nat) : Option Table :=
  match code with
  | 1 => some .coil
  | 2 => some .discreteInput
  | 3 => some .holding
  | 4 => some .input
  | _ => none

/-- How the words of a register are to be understood. -/
inductive Meaning where
  /-- Unsigned hundredths. -/
  | scaled
  /-- An unsigned number. -/
  | count
  /-- Unsigned hundredths in two words, low word first. -/
  | scaledPair
  /-- Battery and device temperature, in hundredths that wrap around to the negative. -/
  | temperatures
  /-- Two's-complement hundredths. -/
  | signedScaled
  /-- The six bytes of the clock. -/
  | clock
deriving DecidableEq

/-- A register, or a block of neighbouring registers that is read in one request. -/
structure Register where
  name : String
  address : UInt16
  table : Table
  quantity : UInt16
  meaning : Meaning
deriving DecidableEq

namespace Register

/-- The length of a register in bytes. -/
def byteLength (r : Register) : Nat :=
  r.quantity.toNat * 2

/-- Where a register stands inside a block, counted in registers. -/
def offsetIn (block r : Register) : Nat :=
  (r.address - block.address).toNat

/-! ## Live readings -/

/-- A register of the live readings. -/
def reading (name : String) (address quantity : UInt16) (meaning : Meaning) : Register :=
  ⟨name, address, .input, quantity, meaning⟩

def arrayVoltage := reading "array voltage" 0x3100 1 .scaled

/-- Array voltage and array current in one read. -/
def arrayInput := reading "array voltage/current" 0x3100 2 .scaled

def arrayCurrent := reading "array current" 0x3101 1 .scaled
def arrayPower := reading "array power" 0x3102 2 .scaledPair
def batteryVoltage := reading "battery voltage" 0x3104 1 .scaled
def chargingCurrent := reading "charging current" 0x3105 1 .scaled
def chargingPower := reading "charging power" 0x3106 2 .scaledPair
def temperatures := reading "battery/device temperature" 0x3110 2 .temperatures
def batteryCharge := reading "battery soc" 0x311A 1 .count
def controllerStatus := reading "controller status" 0x3201 1 .count
def batteryExtremes := reading "battery max/min voltage" 0x3302 2 .scaled
def energyToday := reading "daily energy" 0x330C 2 .scaledPair

/-- All live readings from `0x3100` to `0x3111` in one read. -/
def telemetryBlock := reading "telemetry block" 0x3100 18 .scaled

/-! ## Settings -/

/-- A register of the settings. -/
def setting (name : String) (address quantity : UInt16) (meaning : Meaning) : Register :=
  ⟨name, address, .holding, quantity, meaning⟩

/-- Battery type, battery capacity and temperature compensation in one read. -/
def batterySettings := setting "battery type/capacity/temp comp" 0x9000 3 .count

def batteryType := setting "battery type" 0x9000 1 .count
def batteryCapacity := setting "battery capacity" 0x9001 1 .count
def tempCompCoefficient := setting "temperature compensation coefficient" 0x9002 1 .scaled

/-- All twelve voltage thresholds in one read. -/
def voltageThresholds := setting "voltage thresholds" 0x9003 12 .scaled

def overVoltDisconnect := setting "over voltage disconnect" 0x9003 1 .scaled
def chargingLimit := setting "charging limit voltage" 0x9004 1 .scaled
def overVoltReconnect := setting "over voltage reconnect" 0x9005 1 .scaled
def equalizationVoltage := setting "equalization voltage" 0x9006 1 .scaled
def boostVoltage := setting "boost voltage" 0x9007 1 .scaled
def floatVoltage := setting "float voltage" 0x9008 1 .scaled
def boostReconnect := setting "boost reconnect voltage" 0x9009 1 .scaled
def lowVoltReconnect := setting "low voltage reconnect" 0x900A 1 .scaled
def underVoltReconnect := setting "under voltage warning reconnect" 0x900B 1 .scaled
def underVoltWarning := setting "under voltage warning" 0x900C 1 .scaled
def lowVoltDisconnect := setting "low voltage disconnect" 0x900D 1 .scaled
def dischargingLimit := setting "discharging limit voltage" 0x900E 1 .scaled
def deviceClock := setting "device clock" 0x9013 3 .clock
def equalizationCycle := setting "equalization cycle" 0x9016 1 .count

/-- All four temperature limits in one read. -/
def temperatureLimits := setting "temperature limits" 0x9017 4 .signedScaled

def batteryTempUpperLimit := setting "battery temperature upper limit" 0x9017 1 .signedScaled
def batteryTempLowerLimit := setting "battery temperature lower limit" 0x9018 1 .signedScaled
def controllerTempUpperLimit := setting "controller temperature upper limit" 0x9019 1 .signedScaled
def controllerTempLowerLimit := setting "controller temperature lower limit" 0x901A 1 .signedScaled

/-- Both charge durations in one read. -/
def chargeDurations := setting "equalization/boost duration" 0x906B 2 .count

def equalizationDuration := setting "equalization duration" 0x906B 1 .count
def boostDuration := setting "boost duration" 0x906C 1 .count

end Register

end ChargeController
