import ChargeController.Proofs.Register.Hundredths
import ChargeController.Proofs.Settings.Holding
import ChargeController.Proofs.Settings.Words

/-!
# The order of the threshold words

The rules order twelve words in the device, but they are checked on values: the decoded words of a
configuration with an update on top.  Decoding is strictly monotone and undone by encoding, so what
passes the check on values holds of the words once the update is written.

* `OrderRule.Holds`, `OrderRule.HoldsIn` — what a rule says of words, and of registers.
* `ChargingUpdate.Decodes` — every voltage of an update is the value of some word.
* `Carries` — accepted writes that bring an update's voltages, each to its own register.
* **`holdsIn_of_merge`** — a rule that a checked proposal obeys holds once it is written.
-/

namespace ChargeController

open Settings

/-! ## Rules on words -/

namespace OrderRule

/-- What a rule says of the words of the thresholds. -/
def Holds (word : Threshold → UInt16) : OrderRule → Prop
  | charging =>
      word .overVoltDisconnect > word .chargingLimit ∧ word .chargingLimit > word .equalization ∧
        word .equalization > word .boost ∧ word .boost > word .float ∧
        word .float > word .boostReconnect
  | discharging =>
      word .underVoltReconnect > word .underVoltWarning ∧
        word .underVoltWarning > word .lowVoltDisconnect ∧
        word .lowVoltDisconnect > word .dischargingLimit
  | overVoltage => word .overVoltDisconnect > word .overVoltReconnect
  | lowVoltage => word .lowVoltReconnect > word .lowVoltDisconnect

/-- A rule holds in the registers of a device: all its thresholds have words, and the words stand in
its order. -/
def HoldsIn (rule : OrderRule) (b : Bank) : Prop :=
  ∃ word : Threshold → UInt16,
    (∀ x ∈ rule.thresholds, b x.register.address = some (word x)) ∧ rule.Holds word

lemma HoldsIn.congr {rule : OrderRule} {b b' : Bank} (h : rule.HoldsIn b)
    (hsame : ∀ x ∈ rule.thresholds, b' x.register.address = b x.register.address) :
    rule.HoldsIn b' := by
  obtain ⟨word, hword, hholds⟩ := h
  exact ⟨word, fun x hx => (hsame x hx).trans (hword x hx), hholds⟩

lemma holds_of_obeys {rule : OrderRule} {p : ChargingParameters} {word : Threshold → UInt16}
    (hword : ∀ x ∈ rule.thresholds, p.threshold x = Register.scaled (word x))
    (h : p.obeys rule = true) : rule.Holds word := by
  have hdescends : descends (rule.thresholds.map fun x => Register.scaled (word x)) = true := by
    rw [← List.map_congr_left hword]
    exact h
  simp only [Holds]
  cases rule with
  | charging =>
      simpa only [thresholds, List.map_cons, List.map_nil, descends, Bool.and_true,
        Bool.and_eq_true, Register.scaled_below_iff] using hdescends
  | discharging =>
      simpa only [thresholds, List.map_cons, List.map_nil, descends, Bool.and_true,
        Bool.and_eq_true, Register.scaled_below_iff] using hdescends
  | overVoltage =>
      simpa only [thresholds, List.map_cons, List.map_nil, descends, Bool.and_true,
        Register.scaled_below_iff] using hdescends
  | lowVoltage =>
      simpa only [thresholds, List.map_cons, List.map_nil, descends, Bool.and_true,
        Register.scaled_below_iff] using hdescends

lemma holdsIn_of_obeys {rule : OrderRule} {p : ChargingParameters} {b : Bank}
    (hword : ∀ x ∈ rule.thresholds, ∃ word, b x.register.address = some word ∧
      p.threshold x = Register.scaled word)
    (h : p.obeys rule = true) : rule.HoldsIn b := by
  have hvalue : ∀ x ∈ rule.thresholds, ∃ word, b x.register.address = some word ∧
      (b x.register.address).getD 0 = word ∧ p.threshold x = Register.scaled word := by
    intro x hx
    obtain ⟨word, hword, hvalue⟩ := hword x hx
    exact ⟨word, hword, by rw [hword, Option.getD_some], hvalue⟩
  refine ⟨fun x => (b x.register.address).getD 0, fun x hx => ?_, holds_of_obeys ?_ h⟩
  · obtain ⟨word, hword, hgetD, -⟩ := hvalue x hx
    dsimp only
    rw [hgetD, hword]
  · intro x hx
    obtain ⟨word, -, hgetD, hscaled⟩ := hvalue x hx
    rw [hgetD, hscaled]

end OrderRule

lemma ChargingParameters.obeys_of_checkOrder {p : ChargingParameters} (h : p.checkOrder = .ok ())
    (rule : OrderRule) : p.obeys rule = true := by
  simp only [checkOrder] at h
  split at h
  · next hnone =>
      have hrule := List.find?_eq_none.mp hnone rule (by cases rule <;> decide)
      rwa [Bool.not_eq_true', Bool.not_eq_false] at hrule
  · cases h

/-! ## Updates on registers -/

namespace ChargingUpdate

/-- Every voltage of an update is the value of some word. -/
def Decodes (p : ChargingUpdate) : Prop :=
  ∀ x v, p.threshold x = some v → ∃ word, v = Register.scaled word

/-- The update that sets one threshold to the value of a word. -/
def setting (x : Threshold) (word : UInt16) : ChargingUpdate where
  period _ := none
  threshold y := if y = x then some (Register.scaled word) else none
  limit _ := none

lemma setting_decodes (x : Threshold) (word : UInt16) : (setting x word).Decodes := by
  intro y v hv
  change (if y = x then some (Register.scaled word) else none) = some v at hv
  split at hv
  · exact ⟨word, (Option.some.inj hv).symm⟩
  · cases hv

/-- The word of a threshold once an update is written. -/
def wordAfter (p : ChargingUpdate) (b : Bank) (x : Threshold) : Option UInt16 :=
  match p.threshold x with
  | some v => some (Register.ofVolts v)
  | none => b x.register.address

end ChargingUpdate

/-- **A rule that a proposal obeys holds once the proposal is in the registers.** -/
theorem holdsIn_of_merge {rule : OrderRule} {p : ChargingUpdate} {base : ChargingParameters}
    {b b' : Bank} (hdecodes : p.Decodes)
    (hbase : ∀ x ∈ rule.thresholds, ∃ word, b x.register.address = some word ∧
      base.threshold x = Register.scaled word)
    (hafter : ∀ x ∈ rule.thresholds, b' x.register.address = p.wordAfter b x)
    (hobeys : (p.onto base).obeys rule = true) : rule.HoldsIn b' := by
  refine OrderRule.holdsIn_of_obeys (fun x hx => ?_) hobeys
  rw [hafter x hx]
  unfold ChargingUpdate.wordAfter ChargingUpdate.onto
  dsimp only
  cases hthreshold : p.threshold x with
  | none => exact hbase x hx
  | some v =>
      obtain ⟨word, hv⟩ := hdecodes x v hthreshold
      refine ⟨word, ?_, Option.getD_some.trans hv⟩
      dsimp only
      rw [hv, Register.ofVolts_scaled]

/-! ## The writes of an update -/

/-- The writes of an update bring each of its voltages to its own register, and no other word to the
register of a threshold. -/
structure Carries (p : ChargingUpdate) (ws : List RegisterWrite) : Prop where
  nodup : (ws.map (·.register.address)).Nodup
  present {x v} : p.threshold x = some v → ⟨x.register, Register.ofVolts v⟩ ∈ ws
  absent {x w} : p.threshold x = none → w ∈ ws → w.register.address ≠ x.register.address

/-- The registers of the settings that every battery type lets change. -/
def ungated : List Register :=
  [Register.batteryType, Register.batteryCapacity, Register.deviceClock]

lemma otherRegisters_of_ungated {r : Register} (hr : r ∈ ungated) :
    r ∈ ChargingUpdate.otherRegisters := by
  simp only [ungated, List.mem_cons, List.not_mem_nil, or_false] at hr
  rcases hr with rfl | rfl | rfl <;> simp [ChargingUpdate.otherRegisters]

/-- The registers of the charging parameters are none of the others. -/
lemma apart_setting {r : Register} (hr : r ∈ ChargingUpdate.otherRegisters) (s : Setting) :
    Registers.Apart s.register.address r := by
  revert r s
  unfold Registers.Apart
  decide

lemma apart_threshold {r : Register} (hr : r ∈ ChargingUpdate.otherRegisters) (x : Threshold) :
    Registers.Apart x.register.address r :=
  apart_setting hr (.threshold x)

/-- A word that an update writes to the register of a threshold is the update's own. -/
lemma threshold_of_mem_writes {p : ChargingUpdate} {x : Threshold} {w : RegisterWrite}
    (hw : w ∈ p.writes) (hx : w.register.address = x.register.address) :
    ∃ v, p.threshold x = some v := by
  obtain ⟨s, hregister, hword⟩ := ChargingUpdate.mem_writes.mp hw
  rw [← hregister] at hx
  obtain rfl : s = .threshold x := Setting.ext_address hx
  obtain ⟨v, hv, -⟩ := Option.map_eq_some_iff.mp hword
  exact ⟨v, hv⟩

lemma carries_writes (p : ChargingUpdate) : Carries p p.writes where
  nodup := writes_nodup p
  present {x v} hv := by
    refine ChargingUpdate.mem_writes.mpr ⟨.threshold x, rfl, ?_⟩
    exact congrArg (Option.map Register.ofVolts) hv
  absent {x w} hnone hw hx := by
    obtain ⟨v, hv⟩ := threshold_of_mem_writes hw hx
    rw [hnone] at hv
    cases hv

/-- The writes of a configuration update are in the order of their registers. -/
lemma updateWrites_sublist (p : ConfigUpdate) :
    ((updateWrites p).map (·.register)).Sublist
      ([Register.batteryCapacity] ++ [Register.tempCompCoefficient] ++ chargingRegisters) := by
  simp only [updateWrites, List.map_append]
  refine (List.Sublist.append ?_ ?_).append (writes_sublist p.charging)
  · cases p.batteryCapacity with
    | none => exact List.nil_sublist _
    | some _ => exact List.Sublist.refl _
  · cases p.tempCompCoefficient with
    | none => exact List.nil_sublist _
    | some _ => exact List.Sublist.refl _

lemma carries_updateWrites (p : ConfigUpdate) : Carries p.charging (updateWrites p) := by
  refine ⟨?_, ?_, ?_⟩
  · have hsublist := (updateWrites_sublist p).map (·.address)
    rw [List.map_map] at hsublist
    exact hsublist.nodup (by decide)
  · intro x v hv
    exact List.mem_append_right _ ((carries_writes p.charging).present hv)
  · intro x w hnone hw
    simp only [updateWrites] at hw
    rcases List.mem_append.mp hw with hw | hw
    · simp only [List.mem_append] at hw
      rcases hw with hw | hw
      · obtain ⟨capacity, -, rfl⟩ := Option.map_eq_some_iff.mp (Option.mem_toList.mp hw)
        refine (apart_threshold ?_ x).1
        simp [ChargingUpdate.otherRegisters, RegisterWrite.ofCapacity]
      · obtain ⟨coefficient, -, rfl⟩ := Option.map_eq_some_iff.mp (Option.mem_toList.mp hw)
        refine (apart_threshold ?_ x).1
        simp [ChargingUpdate.otherRegisters, RegisterWrite.ofTempComp]
    · exact (carries_writes p.charging).absent hnone hw

/-- **Accepted writes leave the thresholds of their update.** -/
theorem Carries.after {p : ChargingUpdate} {ws : List RegisterWrite} {es : List Line}
    (hcarries : Carries p ws) (h : Stored ws es) (b : Bank) (x : Threshold) :
    Registers.after b es x.register.address = p.wordAfter b x := by
  simp only [ChargingUpdate.wordAfter]
  cases hthreshold : p.threshold x with
  | some v => exact h.after_of_mem hcarries.nodup (hcarries.present hthreshold) b
  | none => exact h.after_of_ne (fun w hw => hcarries.absent hthreshold hw) b

end ChargeController
