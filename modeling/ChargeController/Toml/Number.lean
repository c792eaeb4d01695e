import ChargeController.Binary.Basic
import ChargeController.Decimal.Numeral
import ChargeController.Toml.Text

/-!
# Numbers in TOML

Integers in four bases, which must fit 64 bits with a sign, and floats.  Single underscores may
separate digits.  A float that is too large is refused, but only a positive one.

* `readNumber` — a number of any kind.
-/

namespace ChargeController.Toml

/-- A number. -/
inductive Number where
  | integer (value : Int)
  | float (value : Double)

/-! ## Digits -/

/-- The digits at the front of a text, without the single underscores between them. -/
def takeDigits (isDigit : Char → Bool) : List Char → List Char × List Char
  | '_' :: c :: s =>
      if isDigit c then
        let (digits, rest) := takeDigits isDigit s
        (c :: digits, rest)
      else ([], '_' :: c :: s)
  | c :: s =>
      if isDigit c then
        let (digits, rest) := takeDigits isDigit s
        (c :: digits, rest)
      else ([], c :: s)
  | [] => ([], [])

/-- One or more digits, the first of which has no underscore before it. -/
def readDigits (isDigit : Char → Bool) : Reader (List Char)
  | c :: s => if isDigit c then some (takeDigits isDigit (c :: s)) else none
  | [] => none

/-- The digits in front of the decimal point: more than one only if the first is not zero. -/
def readWhole : Reader (List Char)
  | '0' :: s => some (['0'], s)
  | s => readDigits Char.isDigit s

/-- A sign, and whether it is a minus. -/
def takeSign : List Char → Bool × List Char
  | '-' :: s => (true, s)
  | '+' :: s => (false, s)
  | s => (false, s)

/-! ## Integers -/

/-- Integers with a sign fill half of the numbers of 64 bits on either side of zero. -/
def halfRange : Int := (UInt64.size / 2 : Nat)

/-- An integer that fits 64 bits. -/
def integer? (i : Int) : Option Number :=
  if -halfRange ≤ i ∧ i < halfRange then some (.integer i) else none

/-- The digits of an integer in a base other than ten. -/
def readBased (base : Nat) (s : List Char) : Option (Number × List Char) := do
  let isDigit (c : Char) : Bool := (hexValue? c).any (· < base)
  let (digits, rest) ← readDigits isDigit s
  let values := digits.filterMap hexValue?
  let number ← integer? (values.foldl (fun n d => n * base + d) 0 : Nat)
  return (number, rest)

/-! ## Floats -/

/-- The digits after a decimal point, none if there is no point. -/
def readFraction : Reader (List Char)
  | '.' :: s => readDigits Char.isDigit s
  | s => some ([], s)

/-- The digits after an `e`, with whether they are negative; none if there is no `e`. -/
def readExponent : Reader (Option (Bool × List Char))
  | c :: s =>
      if c = 'e' ∨ c = 'E' then
        let (isNegative, s) := takeSign s
        Reader.map (fun digits => some (isNegative, digits)) (readDigits Char.isDigit) s
      else some (none, c :: s)
  | [] => some (none, [])

/-- A power of ten above which every float is infinite, whatever its digits. -/
def maxOrder : Int := 310

/-- A power of ten below which every float is zero, whatever its digits. -/
def minOrder : Int := -330

/-- The float nearest to a number of units of a power of ten. -/
def nearestDouble (negative : Bool) (digits : List Char) (exponent : Int) : Double :=
  let n := Numeral.valueOf digits
  let order : Int := (Numeral.digitsOf n).length + exponent
  if n = 0 then Binary.zero negative
  else if maxOrder < order then .infinity negative
  else if order < minOrder then Binary.zero negative
  else if 0 ≤ exponent then Binary.nearest negative (n * Nat.pow 10 exponent.toNat) 1
  else Binary.nearest negative n (Nat.pow 10 (-exponent).toNat)

/-- The float with the given parts; one too large is refused if it is positive. -/
def float? (negative : Bool) (whole fraction : List Char) (exponent : Int) : Option Number :=
  let value := nearestDouble negative (whole ++ fraction) (exponent - fraction.length)
  if value.isInfinite && !negative then none else some (.float value)

/-! ## Numbers -/

/-- A number in base ten, after its sign. -/
def readDecimal (negative : Bool) (s : List Char) : Option (Number × List Char) := do
  let (whole, s) ← readWhole s
  let (fraction, s) ← readFraction s
  let (exponent, s) ← readExponent s
  match fraction, exponent with
  | [], none =>
      let number ← integer? (Binary.signed negative (Numeral.valueOf whole))
      return (number, s)
  | fraction, none =>
      let number ← float? negative whole fraction 0
      return (number, s)
  | fraction, some (isNegative, digits) =>
      let power := Binary.signed isNegative (Numeral.valueOf digits)
      let number ← float? negative whole fraction power
      return (number, s)

/-- A number after its sign. -/
def readUnsigned (negative : Bool) : Reader Number
  | 'i' :: 'n' :: 'f' :: s => some (.float (.infinity negative), s)
  | 'n' :: 'a' :: 'n' :: s => some (.float .nan, s)
  | s => readDecimal negative s

/-- A number of any kind. -/
def readNumber : Reader Number
  | '0' :: 'x' :: s => readBased 16 s
  | '0' :: 'o' :: s => readBased 8 s
  | '0' :: 'b' :: s => readBased 2 s
  | s =>
      let (negative, s) := takeSign s
      readUnsigned negative s

end ChargeController.Toml
