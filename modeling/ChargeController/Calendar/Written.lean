import ChargeController.Calendar.DateTime
import ChargeController.Text.Blank
import ChargeController.Text.Padded

/-!
# Written dates

The text of a `DateTime` is a date, the letter `T` and a time of day.  Years of four digits stand
bare, others carry a sign and at least five characters; the fraction of a second is written with
three, six or nine digits, or not at all.

Reading is more generous than writing: fields may be short or preceded by blanks, and a fraction
may have any number of digits, of which nine count.

* `DateTime.text` — the written form.
* `DateTime.ofText?` — reads it.
-/

namespace ChargeController

namespace DateTime

/-! ## Writing -/

/-- A year: four digits, or a sign and at least four digits after it. -/
def yearText (year : Int) : String :=
  if 0 ≤ year ∧ year ≤ 9999 then Text.padded 4 year.toNat
  else if year < 0 then "-" ++ Text.padded 4 year.natAbs
  else "+" ++ Text.padded 4 year.natAbs

/-- The fraction of a second, in the shortest of three widths that holds it. -/
def fractionText (nanosecond : Nat) : String :=
  if nanosecond = 0 then ""
  else if nanosecond % 1000000 = 0 then "." ++ Text.padded 3 (nanosecond / 1000000)
  else if nanosecond % 1000 = 0 then "." ++ Text.padded 6 (nanosecond / 1000)
  else "." ++ Text.padded 9 nanosecond

/-- The written form of a moment. -/
def text (t : DateTime) : String :=
  yearText t.year ++ "-" ++ Text.padded 2 t.month ++ "-" ++ Text.padded 2 t.day ++ "T"
    ++ Text.padded 2 t.hour ++ ":" ++ Text.padded 2 t.minute ++ ":" ++ Text.padded 2 t.second
    ++ fractionText t.nanosecond

/-! ## Reading

Each reader takes a field from the front of the text and leaves the rest. -/

/-- The largest value a field may be written with. -/
def fieldLimit : Nat := UInt64.size / 2

/-- The leading digits of a text, at most `width` of them, and the rest. -/
def leadingDigits (width : Nat) (s : List Char) : List Char × List Char :=
  let digits := (s.take width).takeWhile Char.isDigit
  (digits, s.drop digits.length)

/-- A number of one to `width` digits. -/
def readNumber (width : Nat) (s : List Char) : Option (Nat × List Char) :=
  match leadingDigits width s with
  | ([], _) => none
  | (digits, rest) =>
      let n := Numeral.valueOf digits
      if n < fieldLimit then some (n, rest) else none

/-- A field: blanks may stand before it. -/
def readField (width : Nat) (s : List Char) : Option (Nat × List Char) :=
  readNumber width (Text.skipBlanks s)

/-- A year: with a sign it may have any number of digits, without one at most four. -/
def readYear (s : List Char) : Option (Int × List Char) :=
  match Text.skipBlanks s with
  | '-' :: rest => (readNumber rest.length rest).map fun (n, rest) => (-(n : Int), rest)
  | '+' :: rest => (readNumber rest.length rest).map fun (n, rest) => ((n : Int), rest)
  | rest => (readNumber 4 rest).map fun (n, rest) => ((n : Int), rest)

/-- A separator: blanks may stand before it. -/
def readMark (mark : Char) (s : List Char) : Option (List Char) :=
  match Text.skipBlanks s with
  | c :: rest => if c = mark then some rest else none
  | [] => none

/-- An optional fraction of a second, in nanoseconds; digits beyond the ninth are skipped. -/
def readFraction (s : List Char) : Option (Nat × List Char) :=
  match s with
  | '.' :: rest =>
      match leadingDigits 9 rest with
      | ([], _) => none
      | (digits, rest) =>
          let billionths := Numeral.valueOf digits * Nat.pow 10 (9 - digits.length)
          some (billionths, rest.dropWhile Char.isDigit)
  | _ => some (0, s)

/-- The fields of a written date with a time of day. -/
def readFields (s : List Char) : Option DateTimeFields := do
  let (year, s) ← readYear s
  let s ← readMark '-' s
  let (month, s) ← readField 2 s
  let s ← readMark '-' s
  let (day, s) ← readField 2 s
  let s ← readMark 'T' s
  let (hour, s) ← readField 2 s
  let s ← readMark ':' s
  let (minute, s) ← readField 2 s
  let s ← readMark ':' s
  let (second, s) ← readField 2 s
  let (nanosecond, s) ← readFraction s
  if (Text.skipBlanks s).isEmpty then
    some { year, month, day, hour, minute, second, nanosecond }
  else none

/-- The moment that a text names, if it names one. -/
def ofText? (s : String) : Option DateTime :=
  (readFields s.toList).bind ofFields?

end DateTime

end ChargeController
