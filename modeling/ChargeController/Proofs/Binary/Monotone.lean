import ChargeController.Proofs.Binary.Rounding

/-!
# Rounding keeps the order

A larger quotient is never rounded below a smaller one.  Two quotients of the same size are rounded
to multiples of the same spacing, and there it is the order of whole numbers.  Of two quotients of
different size, a power of two stands between them, and neither is rounded across it.

* `halfEven_mono` — rounding to whole numbers keeps the order.
* `Format.round_le_pow`, `Format.pow_le_round` — no quotient is rounded across a power of two.
* **`Format.round_mono`** — rounding keeps the order.
* `Binary.finite_of_atMost` — what stands between two finite values is finite.
-/

namespace ChargeController

/-! ## Whole numbers -/

lemma div_le_halfEven (num den : Nat) : num / den ≤ halfEven num den := by
  unfold halfEven
  dsimp only
  split
  · exact Nat.le_refl _
  · split
    · exact Nat.le_succ _
    · exact Nat.le_add_right _ _

lemma halfEven_mono {m n : Nat} (den : Nat) (hle : m ≤ n) : halfEven m den ≤ halfEven n den := by
  rcases Nat.eq_zero_or_pos den with rfl | hpos
  · simp only [halfEven, Nat.div_zero, Nat.mod_zero]
    split_ifs <;> omega
  have hquot : m / den ≤ n / den := Nat.div_le_div_right hle
  rcases Nat.lt_or_eq_of_le hquot with hlt | heq
  · -- one more whole unit is as far as rounding can go up
    have hbound : m < n / den * den := by
      calc m < den * (m / den + 1) := Nat.lt_mul_div_succ m hpos
        _ ≤ den * (n / den) := Nat.mul_le_mul_left den hlt
        _ = n / den * den := Nat.mul_comm _ _
    exact (halfEven_le hbound).trans (div_le_halfEven n den)
  · have hm := Nat.div_add_mod m den
    have hn := Nat.div_add_mod n den
    have hrest : m % den ≤ n % den := by
      rw [heq] at hm
      omega
    have hbit := Nat.mod_lt (n / den) (show 0 < 2 by omega)
    simp only [halfEven, heq]
    split_ifs <;> omega

namespace Format

variable {f : Format} {m n num den : Nat}

/-! ## Powers of two -/

/-- A quotient below a power of two is not rounded above it. -/
lemma round_le_pow (h : 0 < den) {e : Nat} (hlog : (num / den).log2 < e) :
    f.round num den ≤ 2 ^ e := by
  have hpow : 2 ^ (e - ((num / den).log2 + 1 - f.precision)) * f.spacing (num / den) = 2 ^ e := by
    rw [spacing_eq, ← Nat.pow_add]
    congr 1
    omega
  have hnum : num < 2 ^ e * den := by
    calc num < den * (num / den + 1) := Nat.lt_mul_div_succ num h
      _ ≤ den * 2 ^ ((num / den).log2 + 1) := Nat.mul_le_mul_left den Nat.lt_log2_self
      _ ≤ den * 2 ^ e := Nat.mul_le_mul_left den (Nat.pow_le_pow_right (by omega) (by omega))
      _ = 2 ^ e * den := Nat.mul_comm _ _
  have hwhole : halfEven num (den * f.spacing (num / den)) ≤
      2 ^ (e - ((num / den).log2 + 1 - f.precision)) := by
    apply halfEven_le
    rwa [Nat.mul_left_comm, hpow, Nat.mul_comm]
  calc f.round num den = halfEven num (den * f.spacing (num / den)) * f.spacing (num / den) := rfl
    _ ≤ _ := Nat.mul_le_mul_right _ hwhole
    _ = 2 ^ e := hpow

/-- A quotient from a power of two on is not rounded below it. -/
lemma pow_le_round (hp : 1 ≤ f.precision) (h : 0 < den) (hne : num / den ≠ 0) :
    2 ^ (num / den).log2 ≤ f.round num den := by
  have hpow : 2 ^ ((num / den).log2 - ((num / den).log2 + 1 - f.precision)) *
      f.spacing (num / den) = 2 ^ (num / den).log2 := by
    rw [spacing_eq, ← Nat.pow_add]
    congr 1
    omega
  have hwhole : 2 ^ ((num / den).log2 - ((num / den).log2 + 1 - f.precision)) ≤
      halfEven num (den * f.spacing (num / den)) := by
    refine Nat.le_trans ?_ (div_le_halfEven _ _)
    rw [Nat.le_div_iff_mul_le (Nat.mul_pos h (spacing_pos f _)), Nat.mul_left_comm, hpow]
    calc den * 2 ^ (num / den).log2
        ≤ den * (num / den) := Nat.mul_le_mul_left den (Nat.log2_self_le hne)
      _ ≤ num := Nat.mul_div_le num den
  calc 2 ^ (num / den).log2 = _ := hpow.symm
    _ ≤ halfEven num (den * f.spacing (num / den)) * f.spacing (num / den) :=
        Nat.mul_le_mul_right _ hwhole
    _ = f.round num den := rfl

/-! ## Order -/

lemma log2_mono {a b : Nat} (hle : a ≤ b) : a.log2 ≤ b.log2 := by
  rcases Nat.eq_zero_or_pos a with rfl | hpos
  · simp
  · rw [Nat.le_log2 (by omega)]
    exact (Nat.log2_self_le (by omega)).trans hle

/-- **Rounding keeps the order.** -/
theorem round_mono (hp : 1 ≤ f.precision) (h : 0 < den) (hle : m ≤ n) :
    f.round m den ≤ f.round n den := by
  have hquot : m / den ≤ n / den := Nat.div_le_div_right hle
  rcases Nat.lt_or_eq_of_le (log2_mono hquot) with hlt | heq
  · have hne : n / den ≠ 0 := by
      intro hzero
      rw [hzero, Nat.log2_zero] at hlt
      omega
    exact (round_le_pow h hlt).trans (pow_le_round hp h hne)
  · have hspacing : f.spacing (m / den) = f.spacing (n / den) := by
      rw [spacing_eq, spacing_eq, heq]
    simp only [round, hspacing]
    exact Nat.mul_le_mul_right _ (halfEven_mono _ hle)

end Format

/-! ## Values -/

namespace Binary

variable {f : Format}

lemma position_infinity (s : Bool) :
    (infinity s : Binary f).position = some (signed s (2 ^ f.limit)) := rfl

lemma position_finite (s : Bool) (u : Nat) (fits : f.Fits u) :
    (finite s u fits).position = some (signed s u) := rfl

lemma below_iff {a b : Binary f} :
    a.below b = true ↔ ∃ x y, a.position = some x ∧ b.position = some y ∧ x < y := by
  simp only [below]
  split
  · next x y ha hb => simp [ha, hb]
  · next hnone =>
      constructor
      · intro h
        cases h
      · rintro ⟨x, y, ha, hb, -⟩
        exact absurd hb (hnone x y ha)

lemma atMost_iff {a b : Binary f} :
    a.atMost b = true ↔ ∃ x y, a.position = some x ∧ b.position = some y ∧ x ≤ y := by
  simp only [atMost]
  split
  · next x y ha hb => simp [ha, hb]
  · next hnone =>
      constructor
      · intro h
        cases h
      · rintro ⟨x, y, ha, hb, -⟩
        exact absurd hb (hnone x y ha)

/-- **What stands between two finite values is finite.** -/
theorem finite_of_atMost {r t : Bool} {m n : Nat} {hm : f.Fits m} {hn : f.Fits n} {v : Binary f}
    (hlow : (finite r m hm).atMost v = true) (hhigh : v.atMost (finite t n hn) = true) :
    ∃ s u fits, v = finite s u fits ∧ signed r m ≤ signed s u ∧ signed s u ≤ signed t n := by
  simp only [atMost_iff, position_finite, Option.some.injEq] at hlow hhigh
  obtain ⟨_, x, rfl, hx, hlow⟩ := hlow
  obtain ⟨_, _, hx', rfl, hhigh⟩ := hhigh
  obtain rfl := Option.some.inj (hx.symm.trans hx')
  have hlimit : m < 2 ^ f.limit := hm.1
  have hlimit' : n < 2 ^ f.limit := hn.1
  cases v with
  | nan => cases hx
  | infinity s =>
      -- an infinity stands at the limit, with its sign, and a finite value before it
      obtain rfl := Option.some.inj (position_infinity s ▸ hx)
      generalize 2 ^ f.limit = top at *
      cases s with
      | false => cases t <;> simp [signed] at hhigh <;> omega
      | true => cases r <;> simp [signed] at hlow <;> omega
  | finite s u fits =>
      obtain rfl := Option.some.inj (position_finite s u fits ▸ hx)
      exact ⟨s, u, fits, rfl, hlow, hhigh⟩

end Binary

end ChargeController
