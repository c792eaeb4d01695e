import ChargeController.Binary.Basic
import ChargeController.Decimal.Numeral

/-!
# The fewest digits that read back

A magnitude of a binary format has an exact decimal expansion, because its step is a power of
one half.  Cutting that expansion after one digit, two digits and so on, and trying the two
neighbours of the value on each grid, the first grid with a neighbour that rounds back to the
magnitude gives its shortest decimal; of two such neighbours the nearer one is taken.

* `shortest` — the decimal, as a whole number of the expansion's last places.
* `Decimal.ofPlaces` — its significant digits and the place of the decimal point.
-/

namespace ChargeController

/-- Where a value halfway between two equally short decimals goes. -/
inductive Tie where
  | toEven
  | up
deriving DecidableEq

/-- Significant digits with the decimal point `point` places to the right of their front: `12` with
point `3` is one hundred and twenty. -/
structure Decimal where
  digits : List Char
  point : Int
deriving DecidableEq

namespace Decimal

/-- The decimal of `n` counted in places of `10 ^ -scale`, without its trailing zeros. -/
def ofPlaces (n scale : Nat) : Decimal :=
  let digits := Numeral.digitsOf n
  { digits := (digits.reverse.dropWhile (· == '0')).reverse
    point := (digits.length : Int) - scale }

end Decimal

namespace Format

/-- The exact expansion of `units` steps, in places of `10 ^ -scale`. -/
def expansion (f : Format) (units : Nat) : Nat :=
  units * Nat.pow 5 f.scale

/-- Whether a decimal, in places of `10 ^ -scale`, rounds to `units` steps. -/
def readsBack (f : Format) (units places : Nat) : Bool :=
  f.round places (Nat.pow 5 f.scale) == units

/-- The neighbour of the value that is written when the grid of the given width is used, if one of
the two reads back. -/
def onGrid (f : Format) (tie : Tie) (units grid : Nat) : Option Nat :=
  let exact := f.expansion units
  let low := exact / grid * grid
  let high := low + grid
  match f.readsBack units low, f.readsBack units high with
  | false, false => none
  | true, false => some low
  | false, true => some high
  | true, true =>
      if 2 * exact < low + high then some low
      else if low + high < 2 * exact then some high
      else match tie with
        | .up => some high
        | .toEven => if low / grid % 2 = 0 then some low else some high

/-- The shortest decimal that reads back to `units` steps, in places of `10 ^ -scale`. -/
def shortestPlaces (f : Format) (tie : Tie) (units : Nat) : Nat :=
  let exact := f.expansion units
  let length := (Numeral.digitsOf exact).length
  ((List.range 17).findSome? fun d => f.onGrid tie units (Nat.pow 10 (length - (d + 1)))).getD exact

/-- The shortest decimal that reads back to `units` steps. -/
def shortest (f : Format) (tie : Tie) (units : Nat) : Decimal :=
  Decimal.ofPlaces (f.shortestPlaces tie units) f.scale

end Format

end ChargeController
