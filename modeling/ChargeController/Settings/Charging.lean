import ChargeController.Register.Map
import ChargeController.Register.Value
import ChargeController.Settings.Battery
import ChargeController.Settings.Listed

/-!
# Charging parameters

Three periods, twelve voltage thresholds and four temperature limits make up the charging
parameters.  Each is a member of its kind, with a register, a name in documents and — for the
thresholds — a shorter name in messages; the parameters themselves are one function per kind.
-/

namespace ChargeController

/-! ## The settings and their registers -/

/-- The settings that are plain numbers of days or minutes. -/
inductive Period where
  | boost
  | equalizationCycle
  | equalization
deriving DecidableEq

/-- The voltages at which charging and discharging change. -/
inductive Threshold where
  | overVoltDisconnect
  | chargingLimit
  | overVoltReconnect
  | equalization
  | boost
  | float
  | boostReconnect
  | lowVoltReconnect
  | underVoltReconnect
  | underVoltWarning
  | lowVoltDisconnect
  | dischargingLimit
deriving DecidableEq

/-- The temperatures between which the device works. -/
inductive TemperatureLimit where
  | batteryUpper
  | batteryLower
  | controllerUpper
  | controllerLower
deriving DecidableEq

namespace Period

instance : Listed Period where
  all := [boost, equalizationCycle, equalization]
  mem_all a := by cases a <;> decide

/-- The register of a period. -/
def register : Period → Register
  | boost => Register.boostDuration
  | equalizationCycle => Register.equalizationCycle
  | equalization => Register.equalizationDuration

/-- The name of a period in documents. -/
def label : Period → String
  | boost => "boostDuration"
  | equalizationCycle => "equalizationCycle"
  | equalization => "equalizationDuration"

end Period

namespace Threshold

/-- In the order of their registers. -/
instance : Listed Threshold where
  all := [overVoltDisconnect, chargingLimit, overVoltReconnect, equalization, boost, float,
    boostReconnect, lowVoltReconnect, underVoltReconnect, underVoltWarning, lowVoltDisconnect,
    dischargingLimit]
  mem_all a := by cases a <;> decide

/-- The register of a threshold. -/
def register : Threshold → Register
  | overVoltDisconnect => Register.overVoltDisconnect
  | chargingLimit => Register.chargingLimit
  | overVoltReconnect => Register.overVoltReconnect
  | equalization => Register.equalizationVoltage
  | boost => Register.boostVoltage
  | float => Register.floatVoltage
  | boostReconnect => Register.boostReconnect
  | lowVoltReconnect => Register.lowVoltReconnect
  | underVoltReconnect => Register.underVoltReconnect
  | underVoltWarning => Register.underVoltWarning
  | lowVoltDisconnect => Register.lowVoltDisconnect
  | dischargingLimit => Register.dischargingLimit

/-- The name of a threshold in messages. -/
def title : Threshold → String
  | overVoltDisconnect => "overVoltDisconnect"
  | chargingLimit => "chargingLimit"
  | overVoltReconnect => "overVoltReconnect"
  | equalization => "equalization"
  | boost => "boost"
  | float => "float"
  | boostReconnect => "boostReconnect"
  | lowVoltReconnect => "lowVoltReconnect"
  | underVoltReconnect => "underVoltReconnect"
  | underVoltWarning => "underVoltWarning"
  | lowVoltDisconnect => "lowVoltDisconnect"
  | dischargingLimit => "dischargingLimit"

/-- The name of a threshold in documents. -/
def label : Threshold → String
  | boostReconnect => "boostReconnectChargingVoltage"
  | underVoltReconnect => "underVoltWarningReconnectVoltage"
  | t => t.title ++ "Voltage"

end Threshold

namespace TemperatureLimit

/-- In the order of their registers. -/
instance : Listed TemperatureLimit where
  all := [batteryUpper, batteryLower, controllerUpper, controllerLower]
  mem_all a := by cases a <;> decide

/-- The register of a limit. -/
def register : TemperatureLimit → Register
  | batteryUpper => Register.batteryTempUpperLimit
  | batteryLower => Register.batteryTempLowerLimit
  | controllerUpper => Register.controllerTempUpperLimit
  | controllerLower => Register.controllerTempLowerLimit

/-- The name of a limit in documents. -/
def label : TemperatureLimit → String
  | batteryUpper => "batteryTempUpperLimit"
  | batteryLower => "batteryTempLowerLimit"
  | controllerUpper => "controllerTempUpperLimit"
  | controllerLower => "controllerTempLowerLimit"

end TemperatureLimit

/-! ## Parameters and their updates -/

/-- The settings of the charging algorithm. -/
structure ChargingParameters where
  period : Period → UInt16
  threshold : Threshold → Single
  limit : TemperatureLimit → Single

/-- A partial update; absent settings stay as they are. -/
structure ChargingUpdate where
  period : Period → Option UInt16
  threshold : Threshold → Option Single
  limit : TemperatureLimit → Option Single

/-- One register and the word that is to be written to it. -/
structure RegisterWrite where
  register : Register
  value : UInt16
deriving DecidableEq

namespace RegisterWrite

/-- The write of the battery capacity. -/
def ofCapacity (capacity : UInt16) : RegisterWrite :=
  ⟨Register.batteryCapacity, capacity⟩

/-- The write of the temperature compensation. -/
def ofTempComp (coefficient : Single) : RegisterWrite :=
  ⟨Register.tempCompCoefficient, Register.ofVolts coefficient⟩

end RegisterWrite

namespace ChargingUpdate

/-- Whether no setting is present. -/
def isEmpty (p : ChargingUpdate) : Bool :=
  Listed.absent p.period && Listed.absent p.threshold && Listed.absent p.limit

/-- The present settings on top of the given parameters. -/
def onto (p : ChargingUpdate) (base : ChargingParameters) : ChargingParameters where
  period x := (p.period x).getD (base.period x)
  threshold x := (p.threshold x).getD (base.threshold x)
  limit x := (p.limit x).getD (base.limit x)

/-- The write of a period, if it is present. -/
def periodWrite (p : ChargingUpdate) (x : Period) : List RegisterWrite :=
  ((p.period x).map fun n => ⟨x.register, n⟩).toList

/-- The writes of the present settings, by ascending address. -/
def writes (p : ChargingUpdate) : List RegisterWrite :=
  ((Listed.present p.threshold).map fun (x, volts) => ⟨x.register, Register.ofVolts volts⟩)
    ++ p.periodWrite .equalizationCycle
    ++ ((Listed.present p.limit).map fun (x, celsius) =>
        ⟨x.register, (Register.ofCelsius celsius).toUInt16⟩)
    ++ p.periodWrite .equalization
    ++ p.periodWrite .boost

end ChargingUpdate

/-! ## Documents -/

namespace ChargingParameters

/-- The names of all settings, in the order in which they are written. -/
def fieldNames : List String :=
  (Listed.all : List Period).map Period.label
    ++ (Listed.all : List Threshold).map Threshold.label
    ++ (Listed.all : List TemperatureLimit).map TemperatureLimit.label

/-- The written settings. -/
def members (p : ChargingParameters) : List (String × Json) :=
  (Listed.all.map fun x => (Period.label x, Json.ofNat (p.period x).toNat))
    ++ (Listed.all.map fun x => (Threshold.label x, Json.ofSingle (p.threshold x)))
    ++ (Listed.all.map fun x => (TemperatureLimit.label x, Json.ofSingle (p.limit x)))

/-- The document of all settings. -/
def toJson (p : ChargingParameters) : Json :=
  Json.ofMembers p.members

/-- Reads the settings from the fields of a record; none may be missing. -/
def ofFields? (fields : Fields) : Option ChargingParameters := do
  return {
    period := ← Listed.sequence fun x => fields.required (Period.label x) Json.word?
    threshold := ← Listed.sequence fun x => fields.required (Threshold.label x) Json.single?
    limit := ← Listed.sequence fun x => fields.required (TemperatureLimit.label x) Json.single? }

/-- Reads all settings. -/
def ofJson? (v : Json) : Option ChargingParameters :=
  (v.fields? fieldNames).bind ofFields?

end ChargingParameters

namespace ChargingUpdate

/-- The written settings; absent ones are left out. -/
def members (p : ChargingUpdate) : List (String × Json) :=
  ((Listed.present p.period).map fun (x, n) => (x.label, Json.ofNat n.toNat))
    ++ ((Listed.present p.threshold).map fun (x, volts) => (x.label, Json.ofSingle volts))
    ++ ((Listed.present p.limit).map fun (x, celsius) => (x.label, Json.ofSingle celsius))

/-- The document of an update. -/
def toJson (p : ChargingUpdate) : Json :=
  Json.ofMembers p.members

/-- Reads an update from the fields of a record; missing and null settings are absent. -/
def ofFields? (fields : Fields) : Option ChargingUpdate := do
  return {
    period := ← Listed.sequence fun x => fields.optional (Period.label x) Json.word?
    threshold := ← Listed.sequence fun x => fields.optional (Threshold.label x) Json.single?
    limit := ← Listed.sequence fun x => fields.optional (TemperatureLimit.label x) Json.single? }

/-- Reads an update. -/
def ofJson? (v : Json) : Option ChargingUpdate :=
  (v.fields? ChargingParameters.fieldNames).bind ofFields?

end ChargingUpdate

end ChargeController
