import ChargeController.Decimal.Shortest

/-!
# How numbers are written

Which digits a float shows is settled by `Format.shortest`; a `Layout` settles the rest: where
the point is written positionally, and what is done with a whole number.  The layouts in use are
values of this type: one for documents, where every float is recognisable as one, and one for
running text, where no exponent ever appears.

* `Layout.numeral` — the numeral of a finite magnitude.
* `Binary.plainText` — a value in running text.
* `Binary.fixedText` — a value with two decimals, rounded from its exact binary value.
-/

namespace ChargeController

/-- The decisions of a written form. -/
structure Layout where
  /-- Positional only if the point stands to the right of this place, and not past that one; no
  bounds means always. -/
  positional : Option (Int × Int)
  /-- Whether a whole number is followed by a point and a zero. -/
  pointZero : Bool
  tie : Tie

namespace Layout

/-- Floats in documents: from one millionth up to ten million million without an exponent. -/
def document : Layout := ⟨some (-6, 13), true, .toEven⟩

/-- Wide floats in documents: positional over three more decades above, and one less below. -/
def wideDocument : Layout := ⟨some (-5, 16), true, .toEven⟩

/-- Floats in running text: always positional, whole numbers bare. -/
def plain : Layout := ⟨none, false, .up⟩

/-- Whether a point at this place is written positionally. -/
def isPositional (l : Layout) (point : Int) : Bool :=
  match l.positional with
  | none => true
  | some (above, upTo) => above < point && point ≤ upTo

/-- The fraction that stands beside a whole number. -/
def bareFraction (l : Layout) : Option (List Char) :=
  if l.pointZero then some ['0'] else none

/-- Lays out a decimal with at least one digit. -/
def arrange (l : Layout) (negative : Bool) (d : Decimal) : Numeral :=
  if l.isPositional d.point then
    if d.point ≤ 0 then
      { negative, whole := ['0']
        fraction := some (List.replicate (-d.point).toNat '0' ++ d.digits) }
    else
      let width := d.point.toNat
      if d.digits.length ≤ width then
        { negative, whole := d.digits ++ List.replicate (width - d.digits.length) '0'
          fraction := l.bareFraction }
      else
        { negative, whole := d.digits.take width, fraction := some (d.digits.drop width) }
  else
    let power := d.point - 1
    { negative, whole := d.digits.take 1
      fraction := if d.digits.length ≤ 1 then none else some (d.digits.drop 1)
      exponent := some (power < 0, Numeral.digitsOf power.natAbs) }

/-- The numeral of a signed magnitude of `units` steps. -/
def numeral (l : Layout) (f : Format) (negative : Bool) (units : Nat) : Numeral :=
  if units = 0 then { negative, whole := ['0'], fraction := l.bareFraction }
  else l.arrange negative (f.shortest l.tie units)

end Layout

namespace Binary

variable {f : Format}

/-- The sign that running text puts before a value. -/
def signText (negative : Bool) : String :=
  if negative then "-" else ""

/-- A value in running text. -/
def plainText : Binary f → String
  | nan => "NaN"
  | infinity s => signText s ++ "inf"
  | finite s u _ => (Layout.plain.numeral f s u).text

/-- A value with two decimals: the exact value in hundredths, a half going to the even one.  The
sign is kept even when only zeros remain. -/
def fixedText : Binary f → String
  | nan => "NaN"
  | infinity s => signText s ++ "inf"
  | finite s u _ =>
      let hundredths := halfEven (u * 100) (Nat.pow 2 f.scale)
      let cents := Numeral.digitsOf (hundredths % 100)
      let numeral : Numeral :=
        { negative := s, whole := Numeral.digitsOf (hundredths / 100)
          fraction := some (List.replicate (2 - cents.length) '0' ++ cents) }
      numeral.text

end Binary

end ChargeController
