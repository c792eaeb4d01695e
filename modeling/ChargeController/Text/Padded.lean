import ChargeController.Decimal.Numeral

/-!
# Numbers of a fixed width

Numbers padded with zeros: the fields of a date, the fraction of a second, and register
addresses in hexadecimal.
-/

namespace ChargeController.Text

/-- Characters preceded by zeros up to the given width. -/
def padLeft (width : Nat) (s : List Char) : List Char :=
  List.replicate (width - s.length) '0' ++ s

/-- A decimal number with at least `width` digits. -/
def padded (width n : Nat) : String :=
  String.ofList (padLeft width (Numeral.digitsOf n))

/-- A register address as four upper-case hexadecimal digits after a zero and an `x`. -/
def hexAddress (address : UInt16) : String :=
  "0x" ++ String.ofList ((padLeft 4 (Nat.toDigits 16 address.toNat)).map Char.toUpper)

end ChargeController.Text
