import ChargeController.Json.Value

/-!
# The value of a numeral

A numeral without fraction and exponent is an integer as long as it fits 64 bits.  Every other
numeral is a float, read in two steps: its leading digits are collected as long as they fit an
unsigned 64-bit number, and that number is then multiplied or divided by powers of ten, rounding
each time.  A float that would be infinite has no value.
-/

namespace ChargeController

/-- The value of a numeral. -/
inductive Amount where
  /-- A number that is not negative, below `2 ^ 64`. -/
  | natural (n : Nat)
  /-- A negative number, not below `-2 ^ 63`. -/
  | negative (i : Int)
  | float (x : Double)
deriving DecidableEq

namespace Amount

/-- Continues `n` by as many digits as fit 64 bits; the second number counts the digits that are
left over. -/
def collect (n : Nat) : List Char → Nat × Nat
  | [] => (n, 0)
  | c :: rest =>
      let m := n * 10 + (c.toNat - 48)
      if m < UInt64.size then collect m rest else (n, rest.length + 1)

/-- The largest power of ten that is used at once. -/
def maxPower : Nat := 308

/-- A power of ten, rounded. -/
def powerOfTen (n : Nat) : Double :=
  Binary.ofNat (Nat.pow 10 n)

/-- A value times a power of ten, unless that is infinite.  Powers too small for one step are taken
in several. -/
def shift (x : Double) (power : Int) : Option Double :=
  if 0 ≤ power then
    if power ≤ maxPower then
      let y := x * powerOfTen power.toNat
      if y.isInfinite then none else some y
    else if x.isZero then some x else none
  else if -power ≤ maxPower then some (x / powerOfTen (-power).toNat)
  else if x.isZero then some x
  else shift (x / powerOfTen maxPower) (power + maxPower)
termination_by (-power).toNat
decreasing_by simp only [maxPower] at *; omega

/-- A sign before a float. -/
def withSign (negative : Bool) (x : Double) : Double :=
  if negative then -x else x

/-- The power of ten of an exponent. -/
def power (exponent : Option (Bool × List Char)) : Int :=
  match exponent with
  | none => 0
  | some (isNegative, digits) => Binary.signed isNegative (Numeral.valueOf digits)

/-- The value of a numeral, if it is in range. -/
def ofNumeral? (n : Numeral) : Option Amount :=
  let (whole, dropped) := collect 0 n.whole
  if n.isWhole && dropped = 0 then
    if !n.negative then some (.natural whole)
    else if whole = 0 ∨ UInt64.size / 2 < whole then some (.float (-(Binary.ofNat whole)))
    else some (.negative (-(whole : Int)))
  else
    let fraction := n.fraction.getD []
    let (digits, left) := collect whole fraction
    let place : Int := dropped - ((fraction.length - left : Nat) : Int)
    (shift (Binary.ofNat digits) (place + power n.exponent)).map fun x =>
      .float (withSign n.negative x)

/-- A value as a float, rounded once from an integer and otherwise from the wide float. -/
def toBinary (f : Format) : Amount → Binary f
  | .natural n => Binary.ofNat n
  | .negative i => Binary.ofInt i
  | .float x => x.convert f

end Amount

end ChargeController
