/-!
# Dates with a time of day

The proleptic Gregorian calendar without time zones.  A `DateTime` carries the proof that its
fields name a moment that exists; a second of sixty is a leap second, which any minute may have.
-/

namespace ChargeController

/-- Whether a year has a twenty-ninth of February. -/
def isLeapYear (year : Int) : Bool :=
  year % 4 == 0 && (year % 100 != 0 || year % 400 == 0)

/-- The number of days of a month, none for a month that does not exist. -/
def daysInMonth (year : Int) : Nat → Nat
  | 1 | 3 | 5 | 7 | 8 | 10 | 12 => 31
  | 4 | 6 | 9 | 11 => 30
  | 2 => if isLeapYear year then 29 else 28
  | _ => 0

/-- The fields of a date and a time of day, with nothing said about their values. -/
structure DateTimeFields where
  year : Int
  month : Nat
  day : Nat
  hour : Nat
  minute : Nat
  second : Nat
  nanosecond : Nat
deriving DecidableEq

namespace DateTimeFields

/-- The first year that can be counted. -/
def minYear : Int := -262143

/-- The last year that can be counted. -/
def maxYear : Int := 262142

/-- The fields name a moment that exists. -/
def Valid (t : DateTimeFields) : Prop :=
  minYear ≤ t.year ∧ t.year ≤ maxYear ∧ 1 ≤ t.day ∧ t.day ≤ daysInMonth t.year t.month ∧
    t.hour < 24 ∧ t.minute < 60 ∧ t.second ≤ 60 ∧ t.nanosecond < 1000000000

instance (t : DateTimeFields) : Decidable t.Valid := by
  unfold Valid
  infer_instance

end DateTimeFields

/-- A moment of the calendar, to the nanosecond. -/
structure DateTime extends DateTimeFields where
  valid : toDateTimeFields.Valid
deriving DecidableEq

namespace DateTime

/-- The moment with the given fields, if it exists. -/
def ofFields? (t : DateTimeFields) : Option DateTime :=
  if valid : t.Valid then some ⟨t, valid⟩ else none

/-- A moment is told by its fields. -/
theorem eq_of_fields {s t : DateTime} (h : s.toDateTimeFields = t.toDateTimeFields) : s = t := by
  cases s
  cases t
  cases h
  rfl

theorem ofFields?_fields (t : DateTime) : ofFields? t.toDateTimeFields = some t :=
  dif_pos t.valid

end DateTime

end ChargeController
