import ChargeController.Settings.Charging

/-!
# Which charging parameters are allowed

Two checks stand between a proposal and the registers.  Every voltage and temperature must lie in
the range of its register, and the thresholds must descend strictly along four rules, two chains
and two pairs.

* `ChargingParameters.checkRanges` — nothing would be held at the end of a range.
* `ChargingParameters.checkOrder` — the four rules.
-/

namespace ChargeController

/-! ## Ranges -/

/-- The largest quantity that an unsigned register stores. -/
def maxVolts : Single :=
  Binary.ofNat 65535 / Register.hundred

/-- The lowest temperature that a register stores. -/
def minCelsius : Single :=
  Binary.ofInt (-32768) / Register.hundred

/-- The highest temperature that a register stores. -/
def maxCelsius : Single :=
  Binary.ofInt 32767 / Register.hundred

/-- Whether an unsigned register can store a quantity. -/
def voltsFit (x : Single) : Bool :=
  (Binary.zero false).atMost x && x.atMost maxVolts

/-- Whether a two's-complement register can store a temperature. -/
def celsiusFits (x : Single) : Bool :=
  minCelsius.atMost x && x.atMost maxCelsius

/-! ## Order -/

/-- The rules that order the thresholds. -/
inductive OrderRule where
  | charging
  | discharging
  | overVoltage
  | lowVoltage
deriving DecidableEq

namespace OrderRule

/-- In the order in which they are checked. -/
def all : List OrderRule :=
  [charging, discharging, overVoltage, lowVoltage]

/-- The thresholds that descend under a rule. -/
def thresholds : OrderRule → List Threshold
  | charging =>
      [.overVoltDisconnect, .chargingLimit, .equalization, .boost, .float, .boostReconnect]
  | discharging => [.underVoltReconnect, .underVoltWarning, .lowVoltDisconnect, .dischargingLimit]
  | overVoltage => [.overVoltDisconnect, .overVoltReconnect]
  | lowVoltage => [.lowVoltReconnect, .lowVoltDisconnect]

/-- The name of a rule in messages. -/
def title : OrderRule → String
  | charging => "charging voltage chain"
  | discharging => "discharging voltage chain"
  | overVoltage => "over voltage pair"
  | lowVoltage => "low voltage pair"

end OrderRule

/-- Each value is strictly above the next. -/
def descends : List Single → Bool
  | a :: b :: rest => b.below a && descends (b :: rest)
  | _ => true

/-- Why parameters are refused. -/
inductive ParameterFault where
  /-- The thresholds of a rule do not descend; all of them are named. -/
  | disorder (rule : OrderRule) (values : List (Threshold × Single))
  | outOfRange (field : String) (value : Single)

namespace ParameterFault

/-- The wording of a fault. -/
def message : ParameterFault → String
  | .disorder rule values =>
      rule.title ++ " violated: "
        ++ " > ".intercalate (values.map fun (t, v) => t.title ++ " (" ++ v.fixedText ++ ")")
  | .outOfRange field value =>
      field ++ " value " ++ value.plainText ++ " cannot be stored in its register"

end ParameterFault

namespace ChargingParameters

/-- Whether the parameters obey a rule. -/
def obeys (p : ChargingParameters) (rule : OrderRule) : Bool :=
  descends (rule.thresholds.map p.threshold)

/-- Refuses parameters that break a rule; the first broken rule is named. -/
def checkOrder (p : ChargingParameters) : Except ParameterFault Unit :=
  match OrderRule.all.find? (fun rule => !p.obeys rule) with
  | none => .ok ()
  | some rule => .error (.disorder rule (rule.thresholds.map fun t => (t, p.threshold t)))

/-- The voltages and temperatures by name, each with whether its register can store it. -/
def rangeChecks (p : ChargingParameters) : List (String × Single × Bool) :=
  (Listed.all.map fun x => (Threshold.label x, p.threshold x, voltsFit (p.threshold x)))
    ++ (Listed.all.map fun x => (TemperatureLimit.label x, p.limit x, celsiusFits (p.limit x)))

/-- Refuses parameters that their registers cannot store; the first one is named. -/
def checkRanges (p : ChargingParameters) : Except ParameterFault Unit :=
  match p.rangeChecks.find? (fun check => !check.2.2) with
  | none => .ok ()
  | some (field, value, _) => .error (.outOfRange field value)

end ChargingParameters

/-- Refuses a temperature compensation that its register cannot store. -/
def checkTempComp (x : Single) : Except ParameterFault Unit :=
  if voltsFit x then .ok () else .error (.outOfRange "tempCompCoefficient" x)

end ChargeController
