import ChargeController.Calendar.DateTime
import ChargeController.Register.Words

/-!
# The clock registers

Three registers hold the device's clock: minute, second, day, hour, years since 2000 and month,
a byte each, in this order.
-/

namespace ChargeController

namespace Register

/-- The year that the clock counts from. -/
def clockBase : Nat := 2000

/-- The moment in the clock registers. -/
def readClock : Bytes → Except RegisterFault DateTime
  | minute :: second :: day :: hour :: year :: month :: _ =>
      let fields : DateTimeFields :=
        { year := (clockBase + year.toNat : Nat), month := month.toNat, day := day.toNat
          hour := hour.toNat, minute := minute.toNat, second := second.toNat, nanosecond := 0 }
      match if fields.second < 60 then DateTime.ofFields? fields else none with
      | some moment => .ok moment
      | none =>
          .error (.noSuchMoment (clockBase + year.toNat) month.toNat day.toNat hour.toNat
            minute.toNat second.toNat)
  | data => .error (.tooShort "clock" 6 data.length)

/-- The clock registers that hold a moment.  A leap second is kept as the second before it, and a
fraction is dropped. -/
def clockBytes (t : DateTime) : Except RegisterFault Bytes :=
  let years := t.year - clockBase
  if 0 ≤ years ∧ years < 256 then
    .ok [UInt8.ofNat t.minute, UInt8.ofNat (min t.second 59), UInt8.ofNat t.day,
      UInt8.ofNat t.hour, UInt8.ofNat years.toNat, UInt8.ofNat t.month]
  else .error (.yearOutOfRange t.year)

end Register

end ChargeController
