import ChargeController.Proofs.Settings.Strictness
import Mathlib.Algebra.Order.Field.Basic
import Mathlib.Tactic.Linarith

/-!
# What passes the range checks is stored as it is

Both ends of a range are rounded quotients, and so is the product that is stored.  Where a value
stands between the ends, the product is finite and its whole number lies within the word: the two
roundings take an end exactly to the end of the word.  Everything is read off one function, which
takes the place of a value to its hundredths.

* `Binary.whole?` — the nearest whole number of a value, held nowhere.
* `Register.hundredthsAt` — the hundredths of the value that stands at a place.
* **`Register.whole?_mul_hundred`** — they are the whole number of the value's hundredfold.
* `Register.Stores` — that an integer is the whole number, and close to the exact hundredfold.
* **`accepted_stored`** — what the checks accept is stored, finite, and in its order.
-/

namespace ChargeController

namespace Binary

variable {f : Format}

/-- The rational number that a value is. -/
def toRat? : Binary f → Option ℚ
  | nan => none
  | infinity _ => none
  | finite s u _ => some ((signed s u : ℚ) / 2 ^ f.scale)

/-- The nearest integer, a half going away from zero, wherever it is. -/
def whole? : Binary f → Option Int
  | nan => none
  | infinity _ => none
  | finite s u _ => some (signed s ((2 * u + 2 ^ f.scale) / 2 ^ (f.scale + 1) : Nat))

/-- What is held between two ends is the nearest integer. -/
lemma clampRound_of_whole? {b : Binary f} {low high n : Int} (hwhole : b.whole? = some n) :
    b.clampRound low high = max low (min high n) := by
  cases b with
  | nan => cases hwhole
  | infinity _ => cases hwhole
  | finite s u fits =>
      obtain rfl := Option.some.inj hwhole
      rfl

end Binary

namespace Register

/-! ## The hundredths of a place -/

/-- The hundredths of the value that stands `x` steps from zero. -/
def hundredthsAt (x : Int) : Int :=
  Binary.signed (x < 0) (nearestHundredths x.natAbs)

lemma hundredthsAt_signed (s : Bool) (u : Nat) :
    hundredthsAt (Binary.signed s u) = Binary.signed s (nearestHundredths u) := by
  cases s with
  | false => simp [hundredthsAt, Binary.signed]
  | true =>
      rcases Nat.eq_zero_or_pos u with rfl | hpos
      · -- zero stands where it does with either sign
        simp [hundredthsAt, Binary.signed, nearestHundredths_zero]
      · simp [hundredthsAt, Binary.signed, hpos]

lemma hundredthsAt_hundredths (s : Bool) {n : Nat} (hn : n < 65536) :
    hundredthsAt (Binary.signed s (hundredths n)) = Binary.signed s n := by
  rw [hundredthsAt_signed, nearestHundredths_hundredths hn]

/-- **A higher place has no fewer hundredths.** -/
lemma hundredthsAt_mono {x y : Int} (hle : x ≤ y) : hundredthsAt x ≤ hundredthsAt y := by
  simp only [hundredthsAt, Binary.signed, decide_eq_true_eq]
  split_ifs with hx hy
  · have := nearestHundredths_mono (show y.natAbs ≤ x.natAbs by omega)
    omega
  · omega
  · omega
  · have := nearestHundredths_mono (show x.natAbs ≤ y.natAbs by omega)
    omega

lemma hundredthsAt_le_of_atMost {s t : Bool} {m n : Nat} {hm : Format.single.Fits m}
    {hn : Format.single.Fits n}
    (hle : (.finite s m hm : Single).atMost (.finite t n hn) = true) :
    hundredthsAt (Binary.signed s m) ≤ hundredthsAt (Binary.signed t n) := by
  simp only [Binary.atMost_iff, Binary.position_finite, Option.some.injEq] at hle
  obtain ⟨_, _, rfl, rfl, hle⟩ := hle
  exact hundredthsAt_mono hle

/-- **The hundredths of a place are off by less than 51 hundredths of one.** -/
lemma hundredthsAt_error {x : Int} (hx : x.natAbs ≤ hundredths 65535) :
    100 * (hundredthsAt x * unit) < 10000 * x + 51 * unit ∧
      10000 * x < 100 * (hundredthsAt x * unit) + 51 * unit := by
  have herror := nearestHundredths_error hx
  have hscaled : hundredthsAt x * unit =
      Binary.signed (x < 0) (nearestHundredths x.natAbs * unit) := by
    simp only [hundredthsAt, Binary.signed]
    split_ifs <;> simp
  rw [hscaled]
  generalize nearestHundredths x.natAbs * unit = m at herror
  simp only [Binary.signed, decide_eq_true_eq]
  split_ifs with hneg
  · omega
  · omega

/-! ## The hundredfold of a value -/

/-- **The hundredths of a value's place are the whole number of its hundredfold.** -/
theorem whole?_mul_hundred (s : Bool) {u : Nat} (fits) (hu : u ≤ hundredths 65535) :
    (.finite s u fits * hundred : Single).whole? = some (hundredthsAt (Binary.signed s u)) := by
  have hlimit : centuple u < 2 ^ Format.single.limit :=
    Nat.lt_of_le_of_lt (centuple_mono hu) (whole_lt (by omega))
  obtain ⟨_, hproduct⟩ := mul_hundred s fits hlimit
  rw [hproduct, hundredthsAt_signed]
  rfl

/-- That an integer stores a value as it is: it is the whole number of the value's hundredfold, held
at no end, and less than 51 hundredths from the exact hundredfold. -/
structure Stores (n : Int) (v : Single) : Prop where
  whole : (v * hundred).whole? = some n
  near : ∃ x, v.toRat? = some x ∧ |(n : ℚ) - 100 * x| < 51 / 100

/-- **The hundredths of a value that is not above the largest word, nor below its opposite, store
it.** -/
lemma stores_hundredthsAt (s : Bool) {u : Nat} (fits) (hu : u ≤ hundredths 65535) :
    Stores (hundredthsAt (Binary.signed s u)) (.finite s u fits) := by
  have hmagnitude : (Binary.signed s u).natAbs = u := by
    cases s <;> simp [Binary.signed]
  obtain ⟨habove, hbelow⟩ := hundredthsAt_error (hmagnitude.le.trans hu)
  have hpos : (0 : ℚ) < unit := by exact_mod_cast (show 0 < unit by have := unit_large; omega)
  refine ⟨whole?_mul_hundred s fits hu, _, rfl, ?_⟩
  have hscale : ((2 : ℚ) ^ Format.single.scale) = unit := by simp [unit]
  rw [hscale]
  generalize hundredthsAt (Binary.signed s u) = n at *
  generalize Binary.signed s u = x at *
  have habove' : (100 : ℚ) * (n * unit) < 10000 * x + 51 * unit := by exact_mod_cast habove
  have hbelow' : (10000 : ℚ) * x < 100 * (n * unit) + 51 * unit := by exact_mod_cast hbelow
  rw [abs_lt]
  constructor
  · have hstep : 100 * ((x : ℚ) / unit) < n + 51 / 100 := by
      rw [← mul_div_assoc, div_lt_iff₀ hpos]
      linarith
    linarith
  · have hstep : (n : ℚ) - 51 / 100 < 100 * (x / unit) := by
      rw [← mul_div_assoc, lt_div_iff₀ hpos]
      linarith
    linarith

/-! ## Values that fit -/

/-- **What passes the range check of temperatures** is finite, and stands between the ends. -/
theorem finite_of_celsiusFits {v : Single} (h : celsiusFits v = true) :
    ∃ s u fits, v = .finite s u fits ∧ Binary.signed true (hundredths 32768) ≤ Binary.signed s u ∧
      Binary.signed s u ≤ Binary.signed false (hundredths 32767) := by
  obtain ⟨_, hmin⟩ : ∃ fits, minCelsius = .finite true (hundredths 32768) fits :=
    signedScaled_eq 0x8000
  obtain ⟨_, hmax⟩ : ∃ fits, maxCelsius = .finite false (hundredths 32767) fits :=
    signedScaled_eq 0x7FFF
  rw [celsiusFits, Bool.and_eq_true, hmin, hmax] at h
  exact Binary.finite_of_atMost h.1 h.2

/-- **The word of a voltage that fits is the hundredths of its place.** -/
lemma toNat_ofVolts_eq {v : Single} (h : voltsFit v = true) :
    ∃ s u fits, v = .finite s u fits ∧ u ≤ hundredths 65535 ∧
      ((ofVolts v).toNat : Int) = hundredthsAt (Binary.signed s u) := by
  obtain ⟨s, u, fits, rfl, hsign, hu⟩ := finite_of_voltsFit h
  refine ⟨s, u, fits, rfl, hu, ?_⟩
  rw [toNat_ofVolts fits hsign hu, hsign]
  exact (hundredthsAt_signed false u).symm

/-- **So is the word of a temperature that fits.** -/
lemma toInt_ofCelsius_eq {v : Single} (h : celsiusFits v = true) :
    ∃ s u fits, v = .finite s u fits ∧ u ≤ hundredths 65535 ∧
      (ofCelsius v).toInt = hundredthsAt (Binary.signed s u) := by
  obtain ⟨s, u, fits, rfl, hlow, hhigh⟩ := finite_of_celsiusFits h
  have hu : u ≤ hundredths 65535 := by
    have hlow' := hundredths_strictMono (show 32768 < 65535 by omega) (by omega)
    have hhigh' := hundredths_strictMono (show 32767 < 65535 by omega) (by omega)
    cases s <;> simp [Binary.signed] at hlow hhigh <;> omega
  -- the roundings take the ends to the ends of the word
  have hleast := hundredthsAt_mono hlow
  have hmost := hundredthsAt_mono hhigh
  rw [hundredthsAt_hundredths _ (by omega)] at hleast hmost
  change -32768 ≤ _ at hleast
  change _ ≤ 32767 at hmost
  refine ⟨s, u, fits, rfl, hu, ?_⟩
  rw [ofCelsius, Binary.clampRound_of_whole? (whole?_mul_hundred s fits hu),
    Int.min_eq_right hmost, Int.max_eq_right hleast]
  exact Int16.toInt_ofInt_of_le hleast (Int.lt_add_one_of_le hmost)

end Register

namespace Settings

open Register

/-- That a voltage passes a check, as a threshold of parameters or as a temperature compensation. -/
def VoltsAccepted (v : Single) : Prop :=
  checkTempComp v = .ok () ∨
    ∃ (p : ChargingParameters) (x : Threshold), p.checkRanges = .ok () ∧ p.threshold x = v

/-- That a temperature passes a check, as a limit of parameters. -/
def CelsiusAccepted (v : Single) : Prop :=
  ∃ (p : ChargingParameters) (x : TemperatureLimit), p.checkRanges = .ok () ∧ p.limit x = v

lemma VoltsAccepted.fits {v : Single} (h : VoltsAccepted v) : voltsFit v = true := by
  rcases h with hcheck | ⟨p, x, hranges, rfl⟩
  · simpa [checkTempComp] using hcheck
  · exact ChargingParameters.voltsFit_of_checkRanges hranges x

lemma CelsiusAccepted.fits {v : Single} (h : CelsiusAccepted v) : celsiusFits v = true := by
  obtain ⟨p, x, hranges, rfl⟩ := h
  exact ChargingParameters.celsiusFits_of_checkRanges hranges x

/-- **What the checks accept is stored as it is.**  The word of an accepted voltage or temperature
is the whole number of the value's hundredfold, at most a little more than half a hundredth away and
held at no end; what is accepted is finite; and words keep the order of what is accepted. -/
theorem accepted_stored :
    (∀ v, VoltsAccepted v → Stores (ofVolts v).toNat v) ∧
      (∀ v, CelsiusAccepted v → Stores (ofCelsius v).toInt v) ∧
      (∀ v, VoltsAccepted v ∨ CelsiusAccepted v → v ≠ .nan ∧ ∀ s, v ≠ .infinity s) ∧
      (∀ v w, VoltsAccepted v → VoltsAccepted w → v.atMost w = true → ofVolts v ≤ ofVolts w) ∧
      ∀ v w, CelsiusAccepted v → CelsiusAccepted w → v.atMost w = true →
        ofCelsius v ≤ ofCelsius w := by
  refine ⟨?_, ?_, ?_, ?_, ?_⟩
  · intro v hv
    obtain ⟨s, u, fits, rfl, hu, hword⟩ := toNat_ofVolts_eq hv.fits
    rw [hword]
    exact stores_hundredthsAt s fits hu
  · intro v hv
    obtain ⟨s, u, fits, rfl, hu, hword⟩ := toInt_ofCelsius_eq hv.fits
    rw [hword]
    exact stores_hundredthsAt s fits hu
  · rintro v (hv | hv)
    · obtain ⟨s, u, fits, rfl, -⟩ := toNat_ofVolts_eq hv.fits
      simp
    · obtain ⟨s, u, fits, rfl, -⟩ := toInt_ofCelsius_eq hv.fits
      simp
  · intro v w hv hw hle
    obtain ⟨s, m, fitsM, rfl, -, hword⟩ := toNat_ofVolts_eq hv.fits
    obtain ⟨t, n, fitsN, rfl, -, hword'⟩ := toNat_ofVolts_eq hw.fits
    have hwords := hundredthsAt_le_of_atMost hle
    rw [UInt16.le_iff_toNat_le]
    omega
  · intro v w hv hw hle
    obtain ⟨s, m, fitsM, rfl, -, hword⟩ := toInt_ofCelsius_eq hv.fits
    obtain ⟨t, n, fitsN, rfl, -, hword'⟩ := toInt_ofCelsius_eq hw.fits
    have hwords := hundredthsAt_le_of_atMost hle
    rw [Int16.le_iff_toInt_le]
    omega

/-- The sample with limits of the battery at both ends of the range. -/
def extreme : ChargingParameters :=
  { sampleParameters with
    limit := Function.update (Function.update sampleParameters.limit .batteryUpper maxCelsius)
      .batteryLower minCelsius }

/-- At the ends of the ranges, the words are at their ends, and stored none the less. -/
theorem extreme_values_stored :
    VoltsAccepted maxVolts ∧ CelsiusAccepted minCelsius ∧ CelsiusAccepted maxCelsius ∧
      Stores 65535 maxVolts ∧ Stores (-32768) minCelsius ∧ maxVolts ≠ .nan ∧
      ofVolts (Binary.zero true) ≤ ofVolts maxVolts ∧
      ofCelsius minCelsius ≤ ofCelsius maxCelsius := by
  have hranges : extreme.checkRanges = .ok () := ChargingUpdate.isOk_iff.mp (by decide +kernel)
  have hzero : VoltsAccepted (Binary.zero true) :=
    .inl (ChargingUpdate.isOk_iff.mp (by decide +kernel))
  have hvolts : VoltsAccepted maxVolts := .inl (ChargingUpdate.isOk_iff.mp (by decide +kernel))
  have hmin : CelsiusAccepted minCelsius := ⟨extreme, .batteryLower, hranges, rfl⟩
  have hmax : CelsiusAccepted maxCelsius := ⟨extreme, .batteryUpper, hranges, rfl⟩
  obtain ⟨hstored, hstored', hfinite, hmono, hmono'⟩ := accepted_stored
  have hword : ((ofVolts maxVolts).toNat : Int) = 65535 := by decide +kernel
  have hword' : (ofCelsius minCelsius).toInt = -32768 := by decide +kernel
  refine ⟨hvolts, hmin, hmax, ?_, ?_, (hfinite _ (.inl hvolts)).1, ?_, ?_⟩
  · exact hword ▸ hstored _ hvolts
  · exact hword' ▸ hstored' _ hmin
  · exact hmono _ _ hzero hvolts (by decide +kernel)
  · exact hmono' _ _ hmin hmax (by decide +kernel)

end Settings

end ChargeController
