import ChargeController.Calendar.DateTime
import ChargeController.Toml.Text

/-!
# Dates and times in TOML

A moment is a date, a time of day, or a date with a time of day and perhaps an offset.  Nothing in
a configuration is one, so it is enough to know where it ends and that it exists.

* `readMoment` — a moment of any kind, as it is written.
-/

namespace ChargeController.Toml

/-- A number of two digits between two bounds. -/
def readTwoDigits (low high : Nat) : Reader Nat
  | a :: b :: s =>
      if a.isDigit && b.isDigit then
        let n := (a.toNat - 48) * 10 + (b.toNat - 48)
        if low ≤ n ∧ n ≤ high then some (n, s) else none
      else none
  | _ => none

/-- A given character. -/
def readMark (mark : Char) : List Char → Option (List Char)
  | c :: s => if c = mark then some s else none
  | [] => none

/-- A year of four digits. -/
def readYear (s : List Char) : Option (Nat × List Char) := do
  let (century, s) ← readTwoDigits 0 99 s
  let (year, s) ← readTwoDigits 0 99 s
  return (century * 100 + year, s)

/-- The end of a date that exists. -/
def skipDate (s : List Char) : Option (List Char) := do
  let (year, s) ← readYear s
  let s ← readMark '-' s
  let (month, s) ← readTwoDigits 1 12 s
  let s ← readMark '-' s
  let (_, s) ← readTwoDigits 1 (daysInMonth year month) s
  return s

/-- The end of the digits after a point, if there is one. -/
def skipFraction : List Char → Option (List Char)
  | '.' :: c :: s => if c.isDigit then some (s.dropWhile Char.isDigit) else none
  | ['.'] => none
  | s => some s

/-- The end of a time of day; a second may be a leap second. -/
def skipTime (s : List Char) : Option (List Char) := do
  let (_, s) ← readTwoDigits 0 23 s
  let s ← readMark ':' s
  let (_, s) ← readTwoDigits 0 59 s
  let s ← readMark ':' s
  let (_, s) ← readTwoDigits 0 60 s
  skipFraction s

/-- The end of an offset, if there is one. -/
def skipOffset : List Char → Option (List Char)
  | c :: s =>
      if c = 'Z' ∨ c = 'z' then some s
      else if c = '+' ∨ c = '-' then do
        let (_, s) ← readTwoDigits 0 23 s
        let s ← readMark ':' s
        let (_, s) ← readTwoDigits 0 59 s
        return s
      else some (c :: s)
  | [] => some []

/-- The end of a time of day after a date, if there is one. -/
def skipTimeOfDate : List Char → Option (List Char)
  | c :: s =>
      if c = 'T' ∨ c = 't' ∨ c = ' ' then
        match skipTime s with
        | some s => skipOffset s
        | none => some (c :: s)
      else some (c :: s)
  | [] => some []

/-- The end of a moment of any kind. -/
def skipMoment (s : List Char) : Option (List Char) :=
  match skipDate s with
  | some rest => skipTimeOfDate rest
  | none => skipTime s

/-- A moment, as it is written. -/
def readMoment (s : List Char) : Option (String × List Char) :=
  (skipMoment s).map fun rest => (String.ofList (s.take (s.length - rest.length)), rest)

end ChargeController.Toml
