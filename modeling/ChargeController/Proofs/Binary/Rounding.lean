import ChargeController.Binary.Basic
import Mathlib.Tactic.Lemma
import Mathlib.Tactic.Ring

/-!
# How far rounding goes

`Format.round` is specified by two facts: it moves an exact quotient by at most half the spacing of
the quotient's size, and that spacing is small beside the quotient itself.  Everything that is known
about a rounded product or quotient is read off these two.

* **`Format.round_error`** — the distance from the exact quotient is at most half the spacing.
* `Format.round_relative` — the same distance beside the quotient itself.
* **`Format.fits_round`** — a rounded magnitude never has more significant bits than the format,
  so only the format's limit can turn it into an infinity.
* `Format.round_of_short` — a number that already has few significant bits stays as it is.
-/

namespace ChargeController

/-! ## Whole numbers -/

/-- Rounding to a whole number goes at most half a unit up or down. -/
lemma halfEven_error (num : Nat) {den : Nat} (h : 0 < den) :
    2 * (den * halfEven num den) ≤ 2 * num + den ∧
      2 * num ≤ 2 * (den * halfEven num den) + den := by
  have hsplit := Nat.div_add_mod num den
  have hrest := Nat.mod_lt num h
  unfold halfEven
  dsimp only
  split
  · constructor <;> omega
  · split
    · rw [Nat.mul_succ]
      constructor <;> omega
    · -- a tie: the remainder is exactly half, so going up and staying are equally far
      have hbit : num / den % 2 = 0 ∨ num / den % 2 = 1 := Nat.mod_two_eq_zero_or_one _
      rcases hbit with hbit | hbit <;> rw [hbit]
      · rw [Nat.add_zero]
        constructor <;> omega
      · rw [Nat.mul_succ]
        constructor <;> omega

lemma halfEven_mul_cancel {num den : Nat} (h : 0 < den) (hdvd : den ∣ num) :
    halfEven num den * den = num := by
  have hrest : num % den = 0 := Nat.mod_eq_zero_of_dvd hdvd
  have hzero : 2 * 0 < den := by omega
  unfold halfEven
  dsimp only
  rw [hrest, if_pos hzero, Nat.div_mul_cancel hdvd]

lemma halfEven_le {num den bound : Nat} (hlt : num < bound * den) :
    halfEven num den ≤ bound := by
  have hquot : num / den < bound := Nat.div_lt_of_lt_mul (by rwa [Nat.mul_comm])
  unfold halfEven
  dsimp only
  split
  · omega
  · split
    · omega
    · have := Nat.mod_lt (num / den) (show 0 < 2 by omega)
      omega

namespace Format

variable {f : Format}

/-! ## Spacing -/

lemma spacing_eq (f : Format) (n : Nat) : f.spacing n = 2 ^ (n.log2 + 1 - f.precision) := rfl

lemma spacing_pos (f : Format) (n : Nat) : 0 < f.spacing n :=
  Nat.pow_pos (by omega)

/-- The spacing is one step, or so small a part of the magnitude that it keeps all but the first of
the significant bits. -/
lemma spacing_le (hp : 1 ≤ f.precision) (n : Nat) :
    f.spacing n = 1 ∨ f.spacing n * 2 ^ (f.precision - 1) ≤ n := by
  rw [spacing_eq]
  rcases Nat.lt_or_ge (n.log2 + 1) (f.precision + 1) with hsmall | hlarge
  · left
    rw [show n.log2 + 1 - f.precision = 0 by omega, Nat.pow_zero]
  · right
    have hn : n ≠ 0 := by
      rintro rfl
      rw [Nat.log2_zero] at hlarge
      omega
    calc 2 ^ (n.log2 + 1 - f.precision) * 2 ^ (f.precision - 1)
        = 2 ^ (n.log2 + 1 - f.precision + (f.precision - 1)) := (Nat.pow_add 2 _ _).symm
      _ = 2 ^ n.log2 := by rw [show n.log2 + 1 - f.precision + (f.precision - 1) = n.log2 by omega]
      _ ≤ n := Nat.log2_self_le hn

lemma log2_shift_lt {m p : Nat} (k : Nat) (hm : m < 2 ^ p) (hpos : 0 < m) :
    (m * 2 ^ k).log2 < p + k := by
  have hpow : 0 < 2 ^ k := Nat.pow_pos (by omega)
  rw [Nat.log2_lt (Nat.mul_ne_zero (by omega) (by omega)), Nat.pow_add]
  exact Nat.mul_lt_mul_of_pos_right hm hpow

/-! ## Quotients -/

/-- **A rounded quotient is off by at most half the spacing at its size.** -/
theorem round_error (f : Format) (num : Nat) {den : Nat} (h : 0 < den) :
    2 * (den * f.round num den) ≤ 2 * num + den * f.spacing (num / den) ∧
      2 * num ≤ 2 * (den * f.round num den) + den * f.spacing (num / den) := by
  have hden : 0 < den * f.spacing (num / den) := Nat.mul_pos h (spacing_pos f _)
  have herror := halfEven_error num hden
  have hassoc : den * f.round num den
      = den * f.spacing (num / den) * halfEven num (den * f.spacing (num / den)) := by
    unfold round
    dsimp only
    rw [Nat.mul_comm (halfEven _ _), Nat.mul_assoc]
  rw [hassoc]
  exact herror

lemma round_error_mul (f : Format) (x : Nat) {c k : Nat} (hc : 0 < c) (hk : 0 < k) :
    2 * (c * f.round (x * k) (c * k)) ≤ 2 * x + c * f.spacing (x / c) ∧
      2 * x ≤ 2 * (c * f.round (x * k) (c * k)) + c * f.spacing (x / c) := by
  have herror := round_error f (x * k) (Nat.mul_pos hc hk)
  rw [Nat.mul_div_mul_right _ _ hk] at herror
  constructor
  · apply Nat.le_of_mul_le_mul_right (c := k) _ hk
    calc 2 * (c * f.round (x * k) (c * k)) * k
        = 2 * (c * k * f.round (x * k) (c * k)) := by ring
      _ ≤ 2 * (x * k) + c * k * f.spacing (x / c) := herror.1
      _ = (2 * x + c * f.spacing (x / c)) * k := by ring
  · apply Nat.le_of_mul_le_mul_right (c := k) _ hk
    calc 2 * x * k = 2 * (x * k) := by ring
      _ ≤ 2 * (c * k * f.round (x * k) (c * k)) + c * k * f.spacing (x / c) := herror.2
      _ = (2 * (c * f.round (x * k) (c * k)) + c * f.spacing (x / c)) * k := by ring

/-- A rounded quotient that has all significant bits is off by at most one part in as many as they
can tell apart. -/
lemma round_relative {num den : Nat} (hp : 1 ≤ f.precision) (h : 0 < den)
    (hlarge : den * 2 ^ (f.precision - 1) ≤ num) :
    2 ^ f.precision * (den * f.round num den) ≤ (2 ^ f.precision + 1) * num ∧
      2 ^ f.precision * num ≤ 2 ^ f.precision * (den * f.round num den) + num := by
  obtain ⟨habove, hbelow⟩ := round_error f num h
  have hspacing : den * f.spacing (num / den) * 2 ^ (f.precision - 1) ≤ num := by
    rcases spacing_le hp (num / den) with hone | hsmall
    · rwa [hone, Nat.mul_one]
    · calc den * f.spacing (num / den) * 2 ^ (f.precision - 1)
          = den * (f.spacing (num / den) * 2 ^ (f.precision - 1)) := Nat.mul_assoc ..
        _ ≤ den * (num / den) := Nat.mul_le_mul_left den hsmall
        _ ≤ num := Nat.mul_div_le num den
  have hpow : 2 ^ f.precision = 2 ^ (f.precision - 1) * 2 := by
    rw [← Nat.pow_succ, Nat.succ_eq_add_one, Nat.sub_add_cancel hp]
  rw [hpow]
  generalize 2 ^ (f.precision - 1) = half at hspacing ⊢
  constructor
  · calc half * 2 * (den * f.round num den)
        = half * (2 * (den * f.round num den)) := Nat.mul_assoc ..
      _ ≤ half * (2 * num + den * f.spacing (num / den)) := Nat.mul_le_mul_left half habove
      _ = half * 2 * num + den * f.spacing (num / den) * half := by ring
      _ ≤ half * 2 * num + num := Nat.add_le_add_left hspacing _
      _ = (half * 2 + 1) * num := by ring
  · calc half * 2 * num = half * (2 * num) := Nat.mul_assoc ..
      _ ≤ half * (2 * (den * f.round num den) + den * f.spacing (num / den)) :=
          Nat.mul_le_mul_left half hbelow
      _ = half * 2 * (den * f.round num den) + den * f.spacing (num / den) * half := by ring
      _ ≤ _ := Nat.add_le_add_left hspacing _

/-- Nothing is rounded to nothing. -/
lemma round_zero (f : Format) (den : Nat) : f.round 0 den = 0 := by
  simp [round, halfEven]

/-- A rounded quotient is a multiple of its spacing, with at most one bit more than the format
keeps. -/
lemma round_eq_mul (f : Format) (num : Nat) {den : Nat} (h : 0 < den) :
    ∃ k, k ≤ 2 ^ f.precision ∧ f.round num den = k * f.spacing (num / den) := by
  refine ⟨_, ?_, rfl⟩
  have hden : 0 < den * f.spacing (num / den) := Nat.mul_pos h (spacing_pos f _)
  apply halfEven_le
  have hquot : num < den * (num / den + 1) := Nat.lt_mul_div_succ num h
  have hbits : num / den + 1 ≤ 2 ^ f.precision * f.spacing (num / den) := by
    have hlog : num / den < 2 ^ ((num / den).log2 + 1) := Nat.lt_log2_self
    calc num / den + 1
        ≤ 2 ^ ((num / den).log2 + 1) := hlog
      _ ≤ 2 ^ (f.precision + ((num / den).log2 + 1 - f.precision)) :=
          Nat.pow_le_pow_right (by omega) (by omega)
      _ = 2 ^ f.precision * f.spacing (num / den) := Nat.pow_add 2 _ _
  calc num < den * (num / den + 1) := hquot
    _ ≤ den * (2 ^ f.precision * f.spacing (num / den)) := Nat.mul_le_mul_left den hbits
    _ = 2 ^ f.precision * (den * f.spacing (num / den)) := by rw [Nat.mul_left_comm]

/-- **Rounding keeps the significant bits of the format.** -/
theorem fits_round (hp : 1 ≤ f.precision) (num : Nat) {den : Nat} (h : 0 < den)
    (hlimit : f.round num den < 2 ^ f.limit) : f.Fits (f.round num den) := by
  refine ⟨hlimit, Nat.mod_eq_zero_of_dvd ?_⟩
  obtain ⟨k, hk, hround⟩ := round_eq_mul f num h
  rw [hround, spacing_eq]
  generalize (num / den).log2 + 1 - f.precision = e
  show 2 ^ ((k * 2 ^ e).log2 + 1 - f.precision) ∣ k * 2 ^ e
  rcases Nat.lt_or_eq_of_le hk with hlt | heq
  · -- fewer bits than the format keeps: the factor of the spacing already divides
    rcases Nat.eq_zero_or_pos k with rfl | hpos
    · rw [Nat.zero_mul]
      exact Nat.dvd_zero _
    have hbits := log2_shift_lt e hlt hpos
    exact Nat.dvd_mul_left_of_dvd (Nat.pow_dvd_pow 2 (by omega)) k
  · rw [heq, ← Nat.pow_add, Nat.log2_two_pow]
    exact Nat.pow_dvd_pow 2 (by omega)

/-- **A number with no more significant bits than the format keeps is not changed by rounding.** -/
theorem round_of_short {m : Nat} (k : Nat) (hm : m < 2 ^ f.precision) :
    f.round (m * 2 ^ k) 1 = m * 2 ^ k := by
  have hdvd : f.spacing (m * 2 ^ k) ∣ m * 2 ^ k := by
    rcases Nat.eq_zero_or_pos m with rfl | hpos
    · rw [Nat.zero_mul]
      exact Nat.dvd_zero _
    have hbits := log2_shift_lt k hm hpos
    rw [spacing_eq]
    exact Nat.dvd_mul_left_of_dvd (Nat.pow_dvd_pow 2 (by omega)) m
  unfold round
  dsimp only
  rw [Nat.div_one, Nat.one_mul, halfEven_mul_cancel (spacing_pos f _) hdvd]

end Format

namespace Binary

variable {f : Format}

lemma zero_eq_finite (s : Bool) : ∃ fits, (zero s : Binary f) = .finite s 0 fits := by
  have fits : f.Fits 0 := ⟨Nat.pow_pos (by omega), Nat.zero_mod _⟩
  exact ⟨fits, by rw [zero, ofUnits, dif_pos fits]⟩

lemma nearest_eq_finite (hp : 1 ≤ f.precision) (negative : Bool) (num : Nat) {den : Nat}
    (h : 0 < den) (hlimit : f.round num den < 2 ^ f.limit) :
    (nearest negative num den : Binary f)
      = .finite negative (f.round num den) (Format.fits_round hp num h hlimit) :=
  dif_pos (Format.fits_round hp num h hlimit)

lemma nearest_of_short {n : Nat} (negative : Bool) (hp : 1 ≤ f.precision)
    (hlimit : f.precision + f.scale ≤ f.limit) (hn : n < 2 ^ f.precision) :
    ∃ fits, (nearest negative (n * 2 ^ f.scale) 1 : Binary f) =
      .finite negative (n * 2 ^ f.scale) fits := by
  have hround := Format.round_of_short (f := f) f.scale hn
  have hbelow : f.round (n * 2 ^ f.scale) 1 < 2 ^ f.limit := by
    rw [hround]
    calc n * 2 ^ f.scale
        < 2 ^ f.precision * 2 ^ f.scale :=
          Nat.mul_lt_mul_of_pos_right hn (Nat.pow_pos (by omega))
      _ = 2 ^ (f.precision + f.scale) := (Nat.pow_add 2 _ _).symm
      _ ≤ 2 ^ f.limit := Nat.pow_le_pow_right (by omega) hlimit
  have hfits := Format.fits_round hp (n * 2 ^ f.scale) Nat.one_pos hbelow
  rw [hround] at hfits
  refine ⟨hfits, ?_⟩
  have hfinite := nearest_eq_finite hp negative (n * 2 ^ f.scale) Nat.one_pos hbelow
  simp only [hround] at hfinite
  exact hfinite

/-- **A whole number with no more bits than the format keeps is a value of the format.** -/
theorem ofNat_eq_finite {n : Nat} (hp : 1 ≤ f.precision)
    (hlimit : f.precision + f.scale ≤ f.limit) (hn : n < 2 ^ f.precision) :
    ∃ fits, (ofNat n : Binary f) = .finite false (n * 2 ^ f.scale) fits :=
  nearest_of_short false hp hlimit hn

theorem ofInt_eq_finite {i : Int} (hp : 1 ≤ f.precision)
    (hlimit : f.precision + f.scale ≤ f.limit) (hi : i.natAbs < 2 ^ f.precision) :
    ∃ fits, (ofInt i : Binary f) = .finite (i < 0) (i.natAbs * 2 ^ f.scale) fits :=
  nearest_of_short (i < 0) hp hlimit hi

/-! ## Products, quotients and sums of finite values -/

lemma finite_mul_finite (s t : Bool) (u v : Nat) (hu : f.Fits u) (hv : f.Fits v) :
    (finite s u hu * finite t v hv : Binary f) = nearest (s != t) (u * v) (2 ^ f.scale) := rfl

lemma finite_div_finite (s t : Bool) (u : Nat) {v : Nat} (hu : f.Fits u) (hv : f.Fits v)
    (hne : v ≠ 0) :
    (finite s u hu / finite t v hv : Binary f) = nearest (s != t) (u * 2 ^ f.scale) v :=
  if_neg hne

/-- A sum of magnitudes is rounded once. -/
lemma finite_add_finite {u v : Nat} (hu : f.Fits u) (hv : f.Fits v) :
    (finite false u hu + finite false v hv : Binary f) = nearest false (u + v) 1 := by
  show Binary.add _ _ = _
  simp only [add, signed, Bool.false_eq_true, if_false, ← Nat.cast_add, Int.natAbs_natCast]
  split_ifs with hzero
  · rw [Nat.cast_eq_zero] at hzero
    rw [hzero, nearest, Format.round_zero]
    rfl
  · congr 1

end Binary

end ChargeController
