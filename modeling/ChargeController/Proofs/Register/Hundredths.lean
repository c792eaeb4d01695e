import ChargeController.Proofs.Binary.Rounding
import ChargeController.Register.Value
import Mathlib.Tactic.Ring

/-!
# Hundredths in registers, there and back

A register holds hundredths, and a value is its word divided by a hundred, rounded.  The rounding
is far finer than a hundredth, so neither the order of words nor the words themselves are lost.

* `hundredths` — the quotient of a word, in steps of the format.
* **`scaled_below_iff`** — values stand in the order of their words.
* `nearestHundredths` — the word of a magnitude, before it is held at an end.
* **`ofVolts_scaled`**, **`ofCelsius_signedScaled`** — the word that stores a value read from a
  register is the register's own.
-/

namespace ChargeController

namespace Register

/-! ## The quotient of a word -/

/-- How many steps of the 32-bit format one unit is. -/
def unit : Nat := 2 ^ Format.single.scale

/-- A word in hundredths of the unit, counted in steps of the 32-bit format. -/
def hundredths (n : Nat) : Nat :=
  Format.single.round (n * unit * unit) (100 * unit)

lemma single_spacing_le (n : Nat) :
    Format.single.spacing n = 1 ∨ Format.single.spacing n * 8388608 ≤ n :=
  Format.spacing_le (f := Format.single) (by decide) n

lemma unit_large : 100 * 16777216 ≤ unit := by decide +kernel

/-- **The quotient is off by at most the 2²⁴th part.** -/
lemma hundredths_error (n : Nat) :
    100 * hundredths n * 16777216 ≤ n * unit * 16777217 ∧
      n * unit * 16777215 ≤ 100 * hundredths n * 16777216 := by
  have hlarge := unit_large
  have herror := Format.round_error_mul Format.single (n * unit) (show 0 < 100 by omega)
    (show 0 < unit by omega)
  have hspacing := single_spacing_le (n * unit / 100)
  change 2 * (100 * hundredths n) ≤ _ ∧ _ ≤ 2 * (100 * hundredths n) + _ at herror
  -- a word is nothing or at least one, and then far above the smallest step
  have hsize : n * unit = 0 ∨ unit ≤ n * unit := by
    rcases Nat.eq_zero_or_pos n with rfl | hpos
    · exact .inl (Nat.zero_mul _)
    · exact .inr (Nat.le_mul_of_pos_left _ hpos)
  generalize hundredths n = q at herror ⊢
  generalize n * unit = x at *
  generalize Format.single.spacing (x / 100) = step at *
  omega

/-! ## Values of words -/

lemma hundred_eq : ∃ fits, hundred = .finite false (100 * unit) fits :=
  Binary.ofNat_eq_finite (f := Format.single) (by decide) (by decide) (by decide)

lemma hundredths_lt {n : Nat} (hn : n < 65536) : hundredths n < 2 ^ Format.single.limit := by
  have herror := (hundredths_error n).1
  have hbound : hundredths n ≤ 65536 * unit := by
    have : n * unit ≤ 65536 * unit := Nat.mul_le_mul_right _ (by omega)
    omega
  calc hundredths n ≤ 65536 * unit := hbound
    _ = 2 ^ (16 + Format.single.scale) := (Nat.pow_add 2 16 _).symm
    _ < 2 ^ Format.single.limit := Nat.pow_lt_pow_right (by omega) (by decide)

lemma div_hundred (negative : Bool) {n : Nat} (hn : n < 65536) (fits) :
    ∃ fits', (.finite negative (n * unit) fits / hundred : Single) =
      .finite negative (hundredths n) fits' := by
  have hlarge := unit_large
  obtain ⟨fitsHundred, hhundred⟩ := hundred_eq
  have hfinite := Binary.nearest_eq_finite (f := Format.single) (by decide) (negative != false)
    (n * unit * unit) (show 0 < 100 * unit by omega) (hundredths_lt hn)
  rw [Bool.bne_false] at hfinite
  refine ⟨Format.fits_round (by decide) _ (show 0 < 100 * unit by omega) (hundredths_lt hn), ?_⟩
  rw [hhundred, Binary.finite_div_finite _ _ _ _ _ (by omega), Bool.bne_false]
  exact hfinite

lemma scaled_eq (w : UInt16) : ∃ fits, scaled w = .finite false (hundredths w.toNat) fits := by
  have hw : w.toNat < 65536 := w.toNat_lt
  obtain ⟨fitsWord, hword⟩ := Binary.ofNat_eq_finite (f := Format.single) (n := w.toNat)
    (by decide) (by decide) (Nat.lt_trans hw (by decide))
  simp only [scaled]
  rw [hword]
  exact div_hundred false hw fitsWord

lemma natAbs_toInt16_lt (w : UInt16) : w.toInt16.toInt.natAbs < 65536 := by
  have hlow := Int16.le_toInt w.toInt16
  have hhigh := Int16.toInt_lt w.toInt16
  omega

lemma signedScaled_eq (w : UInt16) :
    ∃ fits, signedScaled w =
      .finite (w.toInt16.toInt < 0) (hundredths w.toInt16.toInt.natAbs) fits := by
  have hw := natAbs_toInt16_lt w
  obtain ⟨fitsWord, hword⟩ := Binary.ofInt_eq_finite (f := Format.single) (i := w.toInt16.toInt)
    (by decide) (by decide) (Nat.lt_trans hw (by decide))
  simp only [signedScaled]
  rw [hword]
  exact div_hundred _ hw fitsWord

/-! ## Order -/

/-- The quotients of neighbouring words are far enough apart to keep their order. -/
lemma hundredths_strictMono {m n : Nat} (hlt : m < n) (hn : n < 65536) :
    hundredths m < hundredths n := by
  have hlarge := unit_large
  have hm := (hundredths_error m).1
  have hn' := (hundredths_error n).2
  have hgap : m * unit + unit ≤ n * unit := by
    rw [← Nat.succ_mul]
    exact Nat.mul_le_mul_right _ hlt
  have hbound : m * unit ≤ 65535 * unit := Nat.mul_le_mul_right _ (by omega)
  omega

/-- **Values stand in the order of their words.** -/
theorem scaled_below_iff (v w : UInt16) : (scaled v).below (scaled w) = true ↔ v < w := by
  obtain ⟨fitsV, hv⟩ := scaled_eq v
  obtain ⟨fitsW, hw⟩ := scaled_eq w
  rw [hv, hw, UInt16.lt_iff_toNat_lt]
  show decide ((hundredths v.toNat : Int) < hundredths w.toNat) = true ↔ _
  rw [decide_eq_true_iff, Int.ofNat_lt]
  constructor
  · intro hlt
    by_contra hge
    rcases Nat.lt_or_eq_of_le (Nat.le_of_not_lt hge) with hgt | heq
    · have := hundredths_strictMono hgt v.toNat_lt
      omega
    · rw [heq] at hlt
      omega
  · intro hlt
    exact hundredths_strictMono hlt w.toNat_lt

/-! ## Back to words -/

/-- A magnitude times a hundred, counted in steps of the 32-bit format. -/
def centuple (u : Nat) : Nat :=
  Format.single.round (u * 100 * unit) (1 * unit)

/-- The number of hundredths nearest to a magnitude, a half going up. -/
def nearestHundredths (u : Nat) : Nat :=
  (2 * centuple u + unit) / (unit * 2)

/-- The hundredfold of a magnitude is finite where it stays below the limit. -/
lemma mul_hundred (negative : Bool) {u : Nat} (fits)
    (hlimit : centuple u < 2 ^ Format.single.limit) :
    ∃ fits', (.finite negative u fits * hundred : Single) =
      .finite negative (centuple u) fits' := by
  have hlarge := unit_large
  obtain ⟨fitsHundred, hhundred⟩ := hundred_eq
  have hproduct := Binary.nearest_eq_finite (f := Format.single) (by decide) (negative != false)
    (u * 100 * unit) (show 0 < 1 * unit by omega) hlimit
  have hform : (Binary.nearest (negative != false) (u * (100 * unit)) unit : Single)
      = Binary.nearest (negative != false) (u * 100 * unit) (1 * unit) := by
    rw [Nat.one_mul, Nat.mul_assoc]
  rw [Bool.bne_false] at hproduct
  refine ⟨Format.fits_round (by decide) _ (show 0 < 1 * unit by omega) hlimit, ?_⟩
  rw [hhundred, Binary.finite_mul_finite]
  change Binary.nearest (negative != false) (u * (100 * unit)) unit = _
  rw [hform, Bool.bne_false]
  exact hproduct

/-- A value is stored as its nearest hundredths, unless they are held at an end. -/
lemma clampRound_mul (negative : Bool) {u : Nat} (fits)
    (hlimit : centuple u < 2 ^ Format.single.limit) (low high : Int) :
    (.finite negative u fits * hundred : Single).clampRound low high =
      max low (min high (Binary.signed negative (nearestHundredths u))) := by
  obtain ⟨_, hproduct⟩ := mul_hundred negative fits hlimit
  rw [hproduct]
  rfl

/-- A quotient times a hundred, counted in steps of the 32-bit format. -/
def whole (n : Nat) : Nat :=
  Format.single.round (hundredths n * 100 * unit) (1 * unit)

/-- **A quotient times a hundred is off by less than the 128th part of a unit.** -/
lemma whole_error {n : Nat} (hn : n < 65536) :
    128 * whole n < 128 * (n * unit) + unit ∧ 128 * (n * unit) < 128 * whole n + unit := by
  have hlarge := unit_large
  have hpos : 0 < unit := by omega
  have herror := Format.round_error_mul Format.single (hundredths n * 100) Nat.one_pos hpos
  have hspacing := single_spacing_le (hundredths n * 100 / 1)
  change 2 * (1 * whole n) ≤ _ ∧ _ ≤ 2 * (1 * whole n) + _ at herror
  rw [Nat.div_one] at herror hspacing
  have hquot := hundredths_error n
  have hbound : n * unit ≤ 65535 * unit := Nat.mul_le_mul_right _ (by omega)
  generalize whole n = m at *
  generalize hundredths n = q at *
  generalize n * unit = x at *
  generalize Format.single.spacing (q * 100) = step at *
  omega

lemma round_whole {n : Nat} (hn : n < 65536) : (2 * whole n + unit) / (unit * 2) = n := by
  have hlarge := unit_large
  have herror := whole_error hn
  apply Nat.div_eq_of_lt_le
  · calc n * (unit * 2) = 2 * (n * unit) := by ring
      _ ≤ 2 * whole n + unit := by omega
  · calc 2 * whole n + unit < 2 * (n * unit) + 2 * unit := by omega
      _ = (n + 1) * (unit * 2) := by ring

lemma whole_lt {n : Nat} (hn : n < 65536) : whole n < 2 ^ Format.single.limit := by
  have hlarge := unit_large
  have herror := (whole_error hn).1
  have hbound : n * unit ≤ 65535 * unit := Nat.mul_le_mul_right _ (by omega)
  calc whole n ≤ 65536 * unit := by omega
    _ = 2 ^ (16 + Format.single.scale) := (Nat.pow_add 2 16 _).symm
    _ < 2 ^ Format.single.limit := Nat.pow_lt_pow_right (by omega) (by decide)

/-- A quotient times a hundred is the number again, once it is rounded. -/
lemma clampRound_mul_hundred (negative : Bool) {n : Nat} (hn : n < 65536) (fits) (low high : Int) :
    (.finite negative (hundredths n) fits * hundred : Single).clampRound low high =
      max low (min high (Binary.signed negative n)) := by
  have hwhole : nearestHundredths (hundredths n) = n := round_whole hn
  rw [clampRound_mul negative fits (whole_lt hn), hwhole]

lemma toNat_ofInt {n : Nat} (hn : n ≤ 65535) :
    (UInt16.ofInt (max 0 (min 65535 (n : Int)))).toNat = n := by
  rw [Int.min_eq_right (by omega), Int.max_eq_right (by omega)]
  show ((n : Int) % 65536).toNat % 65536 = n
  omega

/-- **A value read from a register is stored as the register's own word.** -/
theorem ofVolts_scaled (w : UInt16) : ofVolts (scaled w) = w := by
  have hw : w.toNat < 65536 := w.toNat_lt
  obtain ⟨fits, hscaled⟩ := scaled_eq w
  simp only [ofVolts]
  rw [hscaled, clampRound_mul_hundred false hw]
  exact UInt16.toNat_inj.mp (toNat_ofInt (by omega))

lemma signed_natAbs (i : Int) : Binary.signed (i < 0) i.natAbs = i := by
  simp only [Binary.signed, decide_eq_true_eq]
  split
  · omega
  · omega

/-- **So is a value read from a two's-complement register.** -/
theorem ofCelsius_signedScaled (w : UInt16) : (ofCelsius (signedScaled w)).toUInt16 = w := by
  obtain ⟨fits, hscaled⟩ := signedScaled_eq w
  have hlow := Int16.le_toInt w.toInt16
  have hhigh := Int16.toInt_lt w.toInt16
  simp only [ofCelsius]
  rw [hscaled, clampRound_mul_hundred _ (natAbs_toInt16_lt w), signed_natAbs,
    Int.min_eq_right (by omega), Int.max_eq_right (by omega), Int16.ofInt_toInt]
  exact UInt16.toUInt16_toInt16 w

end Register

end ChargeController
