/-!
# Binary floating-point formats

Every finite value of a binary format is a whole number of the format's smallest steps, so a
format is described by three numbers: how many significant bits a magnitude keeps, how small the
smallest step is, and where the magnitudes end.  No bit pattern and no exponent field appears.

* `Format.Fits` — the magnitudes, counted in steps, that the format can hold.
* `Format.round` — the nearest magnitude with the format's significant bits to an exact quotient,
  a half going to the even neighbour.
-/

namespace ChargeController

/-- Rounds `num / den` to a whole number; a half goes to the even neighbour. -/
def halfEven (num den : Nat) : Nat :=
  let low := num / den
  let twice := 2 * (num % den)
  if twice < den then low
  else if den < twice then low + 1
  else low + low % 2

/-- A binary format.  Magnitudes are counted in steps of `2 ^ -scale`, keep `precision`
significant bits, and stay below `2 ^ limit` steps. -/
structure Format where
  precision : Nat
  scale : Nat
  limit : Nat
deriving DecidableEq

namespace Format

/-- The 32-bit interchange format. -/
def single : Format := ⟨24, 149, 277⟩

/-- The 64-bit interchange format. -/
def double : Format := ⟨53, 1074, 2098⟩

/-- `n` steps are a magnitude of the format: not beyond its end, and with nothing below its
significant bits. -/
def Fits (f : Format) (n : Nat) : Prop :=
  n < Nat.pow 2 f.limit ∧ n % Nat.pow 2 (n.log2 + 1 - f.precision) = 0

instance (f : Format) (n : Nat) : Decidable (f.Fits n) := by
  unfold Fits
  infer_instance

/-- The distance, in steps, between neighbouring magnitudes of the size of `n`. -/
def spacing (f : Format) (n : Nat) : Nat :=
  Nat.pow 2 (n.log2 + 1 - f.precision)

/-- The magnitude nearest to `num / den` steps, as if there were no limit. -/
def round (f : Format) (num den : Nat) : Nat :=
  let step := f.spacing (num / den)
  halfEven num (den * step) * step

end Format

end ChargeController
