/-!
# Decimal numerals

The parts of a written number — sign, whole digits, fraction digits and exponent — before anyone
asks for its value.  Readers produce numerals and writers consume them, so the two meet here
without any arithmetic.
-/

namespace ChargeController

/-- A written decimal number.  Digits are kept as characters, most significant first. -/
structure Numeral where
  negative : Bool := false
  whole : List Char
  fraction : Option (List Char) := none
  /-- Whether the exponent is negative, and its digits. -/
  exponent : Option (Bool × List Char) := none
deriving DecidableEq

namespace Numeral

/-- The decimal digits of a natural number. -/
def digitsOf (n : Nat) : List Char :=
  Nat.toDigits 10 n

/-- The number that a row of decimal digits stands for. -/
def valueOf (digits : List Char) : Nat :=
  digits.foldl (fun n c => n * 10 + (c.toNat - 48)) 0

/-- The numeral of an integer. -/
def ofInt (i : Int) : Numeral where
  negative := i < 0
  whole := digitsOf i.natAbs

/-- A numeral with neither fraction nor exponent. -/
def isWhole (n : Numeral) : Bool :=
  n.fraction.isNone && n.exponent.isNone

/-- The characters of a numeral; a written exponent always carries its sign. -/
def chars (n : Numeral) : List Char :=
  (if n.negative then ['-'] else [])
    ++ n.whole
    ++ (match n.fraction with
        | some digits => '.' :: digits
        | none => [])
    ++ (match n.exponent with
        | some (negative, digits) => 'e' :: (if negative then '-' else '+') :: digits
        | none => [])

/-- The text of a numeral. -/
def text (n : Numeral) : String :=
  String.ofList n.chars

end Numeral

end ChargeController
