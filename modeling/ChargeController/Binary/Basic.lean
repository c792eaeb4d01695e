import ChargeController.Binary.Format

/-!
# Floating-point values

A value is not a number, an infinity, or a sign with a magnitude that fits the format.  Each
operation is its exact result, rounded once to the nearest value; the special cases are spelled
out beside it.

* `Binary.nearest` — the one place where a result is rounded and may overflow to an infinity.
* `Binary.position` — where a value stands in the order; not-a-number stands nowhere, and the two
  zeros stand together.
* `Binary.clampRound` — the nearest integer, a half going away from zero, held inside a range.
-/

namespace ChargeController

/-- A value of the format `f`. -/
inductive Binary (f : Format) where
  | nan
  | infinity (negative : Bool)
  | finite (negative : Bool) (units : Nat) (fits : f.Fits units)
deriving DecidableEq

/-- A 32-bit value. -/
abbrev Single := Binary Format.single

/-- A 64-bit value. -/
abbrev Double := Binary Format.double

namespace Binary

variable {f : Format}

/-- A sign with a magnitude that already has the format's significant bits; past the limit it is
an infinity. -/
def ofUnits (negative : Bool) (units : Nat) : Binary f :=
  if fits : f.Fits units then .finite negative units fits else .infinity negative

/-- The value nearest to `num / den` steps. -/
def nearest (negative : Bool) (num den : Nat) : Binary f :=
  ofUnits negative (f.round num den)

/-- Zero with a sign. -/
def zero (negative : Bool) : Binary f :=
  ofUnits negative 0

/-- The value nearest to a natural number. -/
def ofNat (n : Nat) : Binary f :=
  nearest false (n * Nat.pow 2 f.scale) 1

/-- The value nearest to an integer. -/
def ofInt (i : Int) : Binary f :=
  nearest (i < 0) (i.natAbs * Nat.pow 2 f.scale) 1

/-- The opposite value. -/
def neg : Binary f → Binary f
  | nan => nan
  | infinity s => infinity (!s)
  | finite s u h => finite (!s) u h

/-- Whether a value is positive or negative infinity. -/
def isInfinite : Binary f → Bool
  | infinity _ => true
  | _ => false

/-- Whether a value is a zero of either sign. -/
def isZero : Binary f → Bool
  | finite _ u _ => u == 0
  | _ => false

/-- The rounded product.  An infinity times zero is no number. -/
def mul : Binary f → Binary f → Binary f
  | nan, _ => nan
  | _, nan => nan
  | infinity s, infinity t => infinity (s != t)
  | infinity s, finite t v _ => if v = 0 then nan else infinity (s != t)
  | finite s u _, infinity t => if u = 0 then nan else infinity (s != t)
  | finite s u _, finite t v _ => nearest (s != t) (u * v) (Nat.pow 2 f.scale)

/-- The rounded quotient.  Zero by zero and infinity by infinity are no number; anything else by
zero is an infinity. -/
def div : Binary f → Binary f → Binary f
  | nan, _ => nan
  | _, nan => nan
  | infinity _, infinity _ => nan
  | infinity s, finite t _ _ => infinity (s != t)
  | finite s _ _, infinity t => zero (s != t)
  | finite s u _, finite t v _ =>
      if v = 0 then
        if u = 0 then nan else infinity (s != t)
      else nearest (s != t) (u * Nat.pow 2 f.scale) v

/-- A signed count of steps. -/
def signed (negative : Bool) (units : Nat) : Int :=
  if negative then -(units : Int) else units

/-- The rounded sum.  Opposite infinities have none, and a sum that cancels is a positive zero. -/
def add : Binary f → Binary f → Binary f
  | nan, _ => nan
  | _, nan => nan
  | infinity s, infinity t => if s = t then infinity s else nan
  | infinity s, finite _ _ _ => infinity s
  | finite _ _ _, infinity t => infinity t
  | finite s u _, finite t v _ =>
      let sum := signed s u + signed t v
      if sum = 0 then zero (s && t) else nearest (sum < 0) sum.natAbs 1

instance : Mul (Binary f) := ⟨mul⟩
instance : Div (Binary f) := ⟨div⟩
instance : Add (Binary f) := ⟨add⟩
instance : Neg (Binary f) := ⟨neg⟩

/-- The nearest value of another format; exact whenever that format is the wider one. -/
def convert (g : Format) : Binary f → Binary g
  | nan => nan
  | infinity s => infinity s
  | finite s u _ => nearest s (u * Nat.pow 2 g.scale) (Nat.pow 2 f.scale)

/-- Where a value stands in the order, in steps; the infinities stand just past the limit. -/
def position : Binary f → Option Int
  | nan => none
  | infinity s => some (signed s (Nat.pow 2 f.limit))
  | finite s u _ => some (signed s u)

/-- Strictly below; nothing is below or above not-a-number. -/
def below (a b : Binary f) : Bool :=
  match a.position, b.position with
  | some x, some y => x < y
  | _, _ => false

/-- Below or at the same place; not-a-number is at no place. -/
def atMost (a b : Binary f) : Bool :=
  match a.position, b.position with
  | some x, some y => x ≤ y
  | _, _ => false

/-- The nearest integer, a half going away from zero, held between `low` and `high`.
Not-a-number counts as zero. -/
def clampRound (low high : Int) : Binary f → Int
  | nan => 0
  | infinity s => if s then low else high
  | finite s u _ =>
      let magnitude : Nat := (2 * u + Nat.pow 2 f.scale) / Nat.pow 2 (f.scale + 1)
      max low (min high (signed s magnitude))

end Binary

end ChargeController
