import ChargeController.Proofs.Register.Storing
import ChargeController.Proofs.Settings.ReadBack

/-!
# What storing keeps of the order

The rules are checked on values, and the device has words.  Rounding to words never turns two
thresholds around, but it may bring two neighbours together, and what is read back is then refused.
Neighbours that are the values of words, or far enough from each other, stay apart.

* `OrderRule.neighbours` — the pairs of thresholds that a rule compares.
* `ChargingParameters.word` — the word that a threshold is stored as.
* **`order_after_storing`** — what the checks guarantee of the words, and when they pass again.
* `merging_read_back_refused` — parameters that pass the checks and are refused once stored.
-/

namespace ChargeController

open Settings

/-! ## Neighbours -/

lemma descends_map {α : Type} (f : α → Single) (xs : List α) :
    descends (xs.map f) = true ↔ ∀ q ∈ xs.zip xs.tail, (f q.2).below (f q.1) = true := by
  induction xs with
  | nil => simp [descends]
  | cons x rest ih =>
      cases rest with
      | nil => simp [descends]
      | cons y rest =>
          simp only [List.map_cons, descends, Bool.and_eq_true, List.tail_cons,
            List.zip_cons_cons, List.forall_mem_cons] at ih ⊢
          rw [ih]

namespace OrderRule

instance : Listed OrderRule where
  all := all
  mem_all rule := by cases rule <;> decide

/-- The thresholds of a rule that follow one another; the first is to be above the second. -/
def neighbours (rule : OrderRule) : List (Threshold × Threshold) :=
  rule.thresholds.zip rule.thresholds.tail

lemma obeys_iff {p : ChargingParameters} {rule : OrderRule} :
    p.obeys rule = true ↔
      ∀ q ∈ rule.neighbours, (p.threshold q.2).below (p.threshold q.1) = true :=
  descends_map p.threshold rule.thresholds

lemma holds_iff {word : Threshold → UInt16} {rule : OrderRule} :
    rule.Holds word ↔ ∀ q ∈ rule.neighbours, word q.2 < word q.1 := by
  cases rule <;> simp [Holds, neighbours, thresholds]

instance (word : Threshold → UInt16) (rule : OrderRule) : Decidable (rule.Holds word) :=
  decidable_of_iff _ holds_iff.symm

end OrderRule

namespace ChargingParameters

variable {p : ChargingParameters}

lemma checkOrder_iff : p.checkOrder = .ok () ↔ ∀ rule : OrderRule, p.obeys rule = true := by
  constructor
  · exact obeys_of_checkOrder
  · intro h
    have hnone : OrderRule.all.find? (fun rule => !p.obeys rule) = none := by
      simp [List.find?_eq_none, h]
    rw [checkOrder, hnone]

lemma find?_of_checkRanges (h : p.checkRanges = .ok ()) :
    p.rangeChecks.find? (fun check => !check.2.2) = none := by
  unfold checkRanges at h
  -- the checks themselves are not to be computed
  generalize p.rangeChecks.find? (fun check => !check.2.2) = found at h ⊢
  match found, h with
  | none, _ => rfl

lemma fits_of_checkRanges (h : p.checkRanges = .ok ()) :
    (∀ x, voltsFit (p.threshold x) = true) ∧ ∀ x, celsiusFits (p.limit x) = true := by
  have hnone := find?_of_checkRanges h
  simp only [List.find?_eq_none, rangeChecks, List.forall_mem_append, List.forall_mem_map,
    Bool.not_eq_true', Bool.not_eq_false] at hnone
  exact ⟨fun x => hnone.1 x (Listed.mem_all x), fun x => hnone.2 x (Listed.mem_all x)⟩

lemma voltsFit_of_checkRanges (h : p.checkRanges = .ok ()) (x : Threshold) :
    voltsFit (p.threshold x) = true :=
  (fits_of_checkRanges h).1 x

lemma celsiusFits_of_checkRanges (h : p.checkRanges = .ok ()) (x : TemperatureLimit) :
    celsiusFits (p.limit x) = true :=
  (fits_of_checkRanges h).2 x

/-- The word that a threshold is stored as. -/
def word (p : ChargingParameters) (x : Threshold) : UInt16 :=
  Register.ofVolts (p.threshold x)

end ChargingParameters

namespace Settings

open ChargingParameters

variable {p : ChargingParameters}

/-! ## Words in order -/

/-- No two thresholds are turned around. -/
lemma word_le_of_checks (hranges : p.checkRanges = .ok ()) (horder : p.checkOrder = .ok ())
    {rule : OrderRule} {q : Threshold × Threshold} (hq : q ∈ rule.neighbours) :
    p.word q.2 ≤ p.word q.1 := by
  apply Register.ofVolts_mono (voltsFit_of_checkRanges hranges q.2)
    (voltsFit_of_checkRanges hranges q.1)
  exact OrderRule.obeys_iff.mp (obeys_of_checkOrder horder rule) q hq

lemma holds_of_words (horder : p.checkOrder = .ok ()) {rule : OrderRule}
    (hwords : ∀ x ∈ rule.thresholds, ∃ w, p.threshold x = Register.scaled w) :
    rule.Holds p.word := by
  apply OrderRule.holds_of_obeys (fun x hx => ?_) (obeys_of_checkOrder horder rule)
  obtain ⟨w, hw⟩ := hwords x hx
  rw [ChargingParameters.word, hw, Register.ofVolts_scaled]

/-! ## Words that are read back -/

/-- What is read back of a threshold is the value of its word. -/
lemma threshold_read_back {b : Bank} {es : List Line} {c : DeviceConfig}
    (hes : Stored (ChargingUpdate.whole p).writes es)
    (hconfig : Registers.config (Registers.after b es) = .ok c) (x : Threshold) :
    c.charging.threshold x = Register.scaled (p.word x) := by
  obtain ⟨word, hword, hvalue⟩ := config_threshold hconfig x
  have hafter : Registers.after b es x.register.address = some (p.word x) :=
    after_word hes b (.threshold x)
  rw [hvalue, Option.some.inj (hword.symm.trans hafter)]

lemma checkOrder_read_back {b : Bank} {es : List Line} {c : DeviceConfig}
    (hes : Stored (ChargingUpdate.whole p).writes es)
    (hconfig : Registers.config (Registers.after b es) = .ok c) :
    c.charging.checkOrder = .ok () ↔ ∀ rule : OrderRule, rule.Holds p.word := by
  rw [checkOrder_iff]
  apply forall_congr'
  intro rule
  rw [OrderRule.obeys_iff, OrderRule.holds_iff]
  simp only [threshold_read_back hes hconfig, Register.scaled_below_iff]

/-- **What the checks guarantee of the words of the thresholds.**  No two are turned around; a rule
is lost only where two neighbours get the same word, and then what is read back is refused. -/
theorem order_after_storing (hranges : p.checkRanges = .ok ()) (horder : p.checkOrder = .ok ()) :
    (∀ rule : OrderRule, ∀ q ∈ rule.neighbours, p.word q.2 ≤ p.word q.1) ∧
      (∀ rule : OrderRule, rule.Holds p.word ↔ ∀ q ∈ rule.neighbours, p.word q.2 ≠ p.word q.1) ∧
      (∀ rule : OrderRule, ∀ q ∈ rule.neighbours,
        Register.FarBelow (p.threshold q.2) (p.threshold q.1) → p.word q.2 < p.word q.1) ∧
      (∀ rule : OrderRule,
        (∀ x ∈ rule.thresholds, ∃ w, p.threshold x = Register.scaled w) → rule.Holds p.word) ∧
      ∀ b es, Registers.Mapped b → Stored (ChargingUpdate.whole p).writes es →
        ∃ c, Registers.config (Registers.after b es) = .ok c ∧
          (∀ x, c.charging.threshold x = Register.scaled (p.word x)) ∧
          (c.charging.checkOrder = .ok () ↔ ∀ rule : OrderRule, rule.Holds p.word) := by
  refine ⟨?_, ?_, ?_, ?_, ?_⟩
  · intro rule q hq
    exact word_le_of_checks hranges horder hq
  · intro rule
    rw [OrderRule.holds_iff]
    refine forall₂_congr fun q hq => ?_
    have hle := word_le_of_checks hranges horder hq
    constructor
    · intro hlt
      exact UInt16.ne_of_lt hlt
    · intro hne
      exact UInt16.lt_of_le_of_ne hle hne
  · intro rule q _ hfar
    exact Register.ofVolts_lt (voltsFit_of_checkRanges hranges q.2)
      (voltsFit_of_checkRanges hranges q.1) hfar
  · intro rule hwords
    exact holds_of_words horder hwords
  · intro b es hmapped hes
    obtain ⟨c, hconfig⟩ := config_of_mapped (hmapped.after hes)
    exact ⟨c, hconfig, threshold_read_back hes hconfig, checkOrder_read_back hes hconfig⟩

/-- The parameters of the sample registers. -/
def sampleParameters : ChargingParameters where
  period x := (Registers.sample x.register.address).getD 0
  threshold x := Register.scaled ((Registers.sample x.register.address).getD 0)
  limit x := Register.signedScaled ((Registers.sample x.register.address).getD 0)

/-- The lines in which all writes are accepted. -/
def acceptedLines (ws : List RegisterWrite) : List Line :=
  ws.map fun w => ⟨.send (.writeWord w.register.address w.value), .ok []⟩

lemma stored_acceptedLines (ws : List RegisterWrite) : Stored ws (acceptedLines ws) := by
  induction ws with
  | nil => exact .nil
  | cons w rest ih => exact .cons ⟨[], rfl⟩ ih

/-- The sample with a float voltage half-way between two hundredths. -/
def finer : ChargingParameters :=
  { sampleParameters with
    threshold := Function.update sampleParameters.threshold .float
      (Binary.ofNat 2741 / Binary.ofNat 200) }

/-- Its words stand in order, and what is read back passes again. -/
theorem finer_stays_in_order :
    finer.checkRanges = .ok () ∧ finer.checkOrder = .ok () ∧
      finer.word .float = 1371 ∧ (∀ rule : OrderRule, rule.Holds finer.word) ∧
      ∃ c, Registers.config (Registers.after Registers.sample
          (acceptedLines (ChargingUpdate.whole finer).writes)) = .ok c ∧
        c.charging.threshold .float = Register.scaled 1371 ∧ c.charging.checkOrder = .ok () := by
  have hranges : finer.checkRanges = .ok () := ChargingUpdate.isOk_iff.mp (by decide +kernel)
  have horder : finer.checkOrder = .ok () := ChargingUpdate.isOk_iff.mp (by decide +kernel)
  have hfloat : finer.word .float = 1371 := by decide +kernel
  have hmapped : Registers.Mapped Registers.sample := by decide +kernel
  obtain ⟨-, happart, -, -, hback⟩ := order_after_storing hranges horder
  have hholds : ∀ rule : OrderRule, rule.Holds finer.word := by
    intro rule
    rw [happart]
    revert rule
    decide +kernel
  obtain ⟨c, hconfig, hvalues, hchecks⟩ := hback _ _ hmapped (stored_acceptedLines _)
  exact ⟨hranges, horder, hfloat, hholds, c, hconfig, hfloat ▸ hvalues .float, hchecks.mpr hholds⟩

/-- The sample with an equalization voltage that is above the boost voltage by a tenth of a
hundredth. -/
def merging : ChargingParameters :=
  { sampleParameters with
    threshold := Function.update sampleParameters.threshold .equalization
      (Binary.ofNat 14401 / Binary.ofNat 1000) }

/-- The two voltages get the same word, and what is read back is refused. -/
theorem merging_read_back_refused :
    merging.checkRanges = .ok () ∧ merging.checkOrder = .ok () ∧
      merging.word .equalization = 1440 ∧ merging.word .boost = 1440 ∧
      ¬ OrderRule.charging.Holds merging.word ∧
      ∃ c, Registers.config (Registers.after Registers.sample
          (acceptedLines (ChargingUpdate.whole merging).writes)) = .ok c ∧
        c.charging.checkOrder ≠ .ok () := by
  have hranges : merging.checkRanges = .ok () := ChargingUpdate.isOk_iff.mp (by decide +kernel)
  have horder : merging.checkOrder = .ok () := ChargingUpdate.isOk_iff.mp (by decide +kernel)
  have hlost : ¬ OrderRule.charging.Holds merging.word := by decide +kernel
  have hmapped : Registers.Mapped Registers.sample := by decide +kernel
  have hstored := stored_acceptedLines (ChargingUpdate.whole merging).writes
  obtain ⟨c, hconfig⟩ := config_of_mapped (hmapped.after hstored)
  refine ⟨hranges, horder, by decide +kernel, by decide +kernel, hlost, c, hconfig, ?_⟩
  intro hchecks
  exact hlost ((checkOrder_read_back hstored hconfig).mp hchecks .charging)

end Settings

end ChargeController
