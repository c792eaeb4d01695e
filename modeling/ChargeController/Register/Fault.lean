import ChargeController.Text.Padded

/-!
# Faults in register contents

What can be wrong with the bytes of a register, apart from the way they were read.
-/

namespace ChargeController

/-- Why register bytes have no value, or a value has no register bytes. -/
inductive RegisterFault where
  /-- Fewer bytes than the value needs. -/
  | tooShort (what : String) (expected actual : Nat)
  /-- A register is two bytes, so a payload has an even number of them. -/
  | oddLength (length : Nat)
  /-- The clock registers name a moment that does not exist. -/
  | noSuchMoment (year month day hour minute second : Nat)
  /-- The clock registers count years from 2000 to 2255 only. -/
  | yearOutOfRange (year : Int)
deriving DecidableEq

/-- The wording of a fault. -/
def RegisterFault.message : RegisterFault → String
  | .tooShort what expected actual =>
      s!"insufficient data for {what}: expected {expected} bytes, got {actual}"
  | .oddLength length => s!"register payload has odd length {length}"
  | .noSuchMoment year month day hour minute second =>
      s!"invalid device clock: {year}-" ++ Text.padded 2 month ++ "-" ++ Text.padded 2 day ++ " "
        ++ Text.padded 2 hour ++ ":" ++ Text.padded 2 minute ++ ":" ++ Text.padded 2 second
  | .yearOutOfRange year => s!"invalid device clock: year {year} out of range"

end ChargeController
