import ChargeController.Proofs.Binary.Monotone
import ChargeController.Proofs.Register.Hundredths
import ChargeController.Settings.Validation

/-!
# What a register keeps of a value

A quantity is stored as its nearest number of hundredths.  Of what passes the range check nothing is
held at the end of a word, so a larger quantity never gets a smaller word, and the word is within
51 hundredths of a hundredth of the quantity.  Quantities that are closer may get the same word.

* `finite_of_voltsFit` — what passes the range check.
* **`nearestHundredths_error`** — how far a word is from what it stores.
* **`ofVolts_mono`** — words keep the order of what they store.
* **`ofVolts_lt`** — and strictly, where that is far enough from each other.
-/

namespace ChargeController

namespace Register

/-! ## Magnitudes in hundredths -/

lemma nearestHundredths_hundredths {n : Nat} (hn : n < 65536) :
    nearestHundredths (hundredths n) = n :=
  round_whole hn

lemma nearestHundredths_zero : nearestHundredths 0 = 0 := by
  decide +kernel

lemma centuple_mono {u v : Nat} (hle : u ≤ v) : centuple u ≤ centuple v := by
  have hlarge := unit_large
  apply Format.round_mono (by decide) (by omega)
  exact Nat.mul_le_mul_right _ (Nat.mul_le_mul_right _ hle)

lemma nearestHundredths_mono {u v : Nat} (hle : u ≤ v) :
    nearestHundredths u ≤ nearestHundredths v := by
  have hcentuple := centuple_mono hle
  apply Nat.div_le_div_right
  omega

lemma centuple_error (u : Nat) :
    16777216 * centuple u ≤ 16777217 * (u * 100) ∧
      16777215 * (u * 100) ≤ 16777216 * centuple u := by
  have hlarge := unit_large
  have herror := Format.round_error_mul Format.single (u * 100) Nat.one_pos
    (show 0 < unit by omega)
  have hspacing := single_spacing_le (u * 100 / 1)
  change 2 * (1 * centuple u) ≤ _ ∧ _ ≤ 2 * (1 * centuple u) + _ at herror
  rw [Nat.div_one] at herror hspacing
  generalize centuple u = c at *
  generalize Format.single.spacing (u * 100) = step at *
  -- where the spacing is a single step, a whole number of steps is not moved at all
  omega

/-- **The nearest hundredths of what fits are off by less than 51 hundredths of a hundredth.** -/
lemma nearestHundredths_error {u : Nat} (hu : u ≤ hundredths 65535) :
    100 * (nearestHundredths u * unit) < 10000 * u + 51 * unit ∧
      10000 * u < 100 * (nearestHundredths u * unit) + 51 * unit := by
  have hlarge := unit_large
  have hcentuple := centuple_error u
  have hmax := (hundredths_error 65535).1
  have hquot : unit * 2 * nearestHundredths u + (2 * centuple u + unit) % (unit * 2) =
      2 * centuple u + unit := Nat.div_add_mod _ _
  have hrest := Nat.mod_lt (2 * centuple u + unit) (show 0 < unit * 2 by omega)
  have hform : unit * 2 * nearestHundredths u = 2 * (nearestHundredths u * unit) := by ring
  rw [hform] at hquot
  generalize nearestHundredths u * unit = n at *
  generalize (2 * centuple u + unit) % (unit * 2) = r at *
  omega

/-! ## Values that fit -/

/-- **What passes the range check** is finite, and neither below zero nor above the largest word. -/
theorem finite_of_voltsFit {v : Single} (h : voltsFit v = true) :
    ∃ s u fits, v = .finite s u fits ∧ Binary.signed s u = u ∧ u ≤ hundredths 65535 := by
  obtain ⟨_, hmax⟩ : ∃ fits, maxVolts = .finite false (hundredths 65535) fits := scaled_eq 65535
  obtain ⟨_, hzero⟩ := Binary.zero_eq_finite (f := Format.single) false
  rw [voltsFit, Bool.and_eq_true, hmax, hzero] at h
  obtain ⟨s, u, fits, rfl, hlow, hhigh⟩ := Binary.finite_of_atMost h.1 h.2
  refine ⟨s, u, fits, rfl, ?_⟩
  cases s with
  | false => simp [Binary.signed] at hhigh ⊢; omega
  | true => simp [Binary.signed] at hlow ⊢; omega

/-! ## Words of values -/

/-- The word of a value that fits is its nearest number of hundredths. -/
lemma toNat_ofVolts {s : Bool} {u : Nat} (fits : Format.single.Fits u)
    (hsign : Binary.signed s u = u) (hu : u ≤ hundredths 65535) :
    (ofVolts (.finite s u fits)).toNat = nearestHundredths u := by
  have hmax : centuple (hundredths 65535) < 2 ^ Format.single.limit := whole_lt (by omega)
  have hlimit := Nat.lt_of_le_of_lt (centuple_mono hu) hmax
  have hbound : nearestHundredths u ≤ 65535 := by
    have hmax := nearestHundredths_mono hu
    rwa [nearestHundredths_hundredths (by omega)] at hmax
  have hword : Binary.signed s (nearestHundredths u) = nearestHundredths u := by
    cases s with
    | false => rfl
    | true =>
        -- only zero is below zero and not below it
        obtain rfl : u = 0 := by simp [Binary.signed] at hsign; omega
        rw [nearestHundredths_zero]
        rfl
  rw [ofVolts, clampRound_mul s fits hlimit, hword]
  exact toNat_ofInt hbound

/-- **Words keep the order of what they store.** -/
theorem ofVolts_mono {v w : Single} (hv : voltsFit v = true) (hw : voltsFit w = true)
    (hbelow : v.below w = true) : ofVolts v ≤ ofVolts w := by
  obtain ⟨s, m, fitsM, rfl, hsign, hm⟩ := finite_of_voltsFit hv
  obtain ⟨t, n, fitsN, rfl, hsign', hn⟩ := finite_of_voltsFit hw
  simp only [Binary.below_iff, Binary.position_finite, hsign, hsign', Option.some.injEq] at hbelow
  obtain ⟨_, _, rfl, rfl, hlt⟩ := hbelow
  rw [UInt16.le_iff_toNat_le, toNat_ofVolts fitsM hsign hm, toNat_ofVolts fitsN hsign' hn]
  exact nearestHundredths_mono (by omega)

/-- That a value is above another by 102 hundredths of a hundredth or more. -/
def FarBelow (v w : Single) : Prop :=
  ∃ x y : Int, v.position = some x ∧ w.position = some y ∧ 102 * unit ≤ 10000 * (y - x)

/-- **Far from each other, values keep their order strictly.** -/
theorem ofVolts_lt {v w : Single} (hv : voltsFit v = true) (hw : voltsFit w = true)
    (hfar : FarBelow v w) : ofVolts v < ofVolts w := by
  obtain ⟨s, m, fitsM, rfl, hsign, hm⟩ := finite_of_voltsFit hv
  obtain ⟨t, n, fitsN, rfl, hsign', hn⟩ := finite_of_voltsFit hw
  simp only [FarBelow, Binary.position_finite, hsign, hsign', Option.some.injEq] at hfar
  obtain ⟨_, _, rfl, rfl, hgap⟩ := hfar
  have hlow := (nearestHundredths_error hm).1
  have hhigh := (nearestHundredths_error hn).2
  rw [UInt16.lt_iff_toNat_lt, toNat_ofVolts fitsM hsign hm, toNat_ofVolts fitsN hsign' hn]
  -- each word gives way by less than half of the distance
  apply Nat.lt_of_mul_lt_mul_right (a := unit)
  generalize nearestHundredths m * unit = x at *
  generalize nearestHundredths n * unit = y at *
  omega

end Register

end ChargeController
