import ChargeController.Proofs.Settings.Order
import Mathlib.Data.List.Sort

/-!
# The plan of an update

What an update is to write can be said before anything is asked: the battery type, the capacity, the
temperature compensation, the charging parameters by ascending address, and the clock, as far as
they are present and the operation has to do with them.  Two planned writes may turn out to have no
request at all: the unknown battery type has no number, and the clock registers hold no moment
before 2000 or after 2255.

* `PlannedWrite` — a register, the word that a fault would name, and the request.
* **`writes_eq_sorted`** — the writes of a charging update are its present settings by address.
* `Operation.plan` — what an operation is to write.
-/

namespace ChargeController

open Settings

/-! ## By ascending address -/

namespace ChargingUpdate

/-- Whether one write comes before another. -/
def byAddress (v w : RegisterWrite) : Bool :=
  v.register.address ≤ w.register.address

/-- **The writes of a charging update are its present settings by ascending address.** -/
theorem writes_eq_sorted (p : ChargingUpdate) : p.writes = p.settings.mergeSort byAddress := by
  have hsame := List.mergeSort_perm p.settings byAddress
  have hwrites : p.writes.Pairwise fun v w => byAddress v w = true := by
    refine (writes_pairwise p).imp fun hlt => ?_
    simp only [byAddress, decide_eq_true_eq]
    exact UInt16.le_of_lt hlt
  have hsorted : (p.settings.mergeSort byAddress).Pairwise fun v w => byAddress v w = true := by
    refine List.pairwise_mergeSort (fun u v w huv hvw => ?_) (fun v w => ?_) p.settings
    · simp only [byAddress, decide_eq_true_eq] at huv hvw ⊢
      exact UInt16.le_trans huv hvw
    · simp only [byAddress, Bool.or_eq_true, decide_eq_true_eq]
      exact UInt16.le_total _ _
  refine List.Perm.eq_of_pairwise (fun v w hv hw hle hge => ?_) hwrites hsorted
    ((writes_perm p).trans hsame.symm)
  -- Two writes of one address are the same, since no register is written twice.
  have hw : w ∈ p.writes := (writes_perm p).mem_iff.mpr (hsame.mem_iff.mp hw)
  simp only [byAddress, decide_eq_true_eq] at hle hge
  exact List.inj_on_of_nodup_map (writes_nodup p) hv hw (UInt16.le_antisymm hle hge)

end ChargingUpdate

namespace Settings

/-! ## Plans -/

/-- A register that is to be written, the word that a fault would name, and the request that writes
it, unless there is none. -/
structure PlannedWrite where
  register : Register
  value : UInt16
  request : Option Request
  isWrite : ∀ r, request = some r → r.isWrite = true

namespace PlannedWrite

def ofWord (w : RegisterWrite) : PlannedWrite where
  register := w.register
  value := w.value
  request := some (.writeWord w.register.address w.value)
  isWrite r hr := by
    obtain rfl := Option.some.inj hr
    rfl

/-- The unknown battery type has no number that could be written. -/
def ofType (t : BatteryType) : PlannedWrite where
  register := Register.batteryType
  value := t.code?.getD 0
  request := t.code?.map fun code => .writeWord Register.batteryType.address code
  isWrite r hr := by
    obtain ⟨code, -, rfl⟩ := Option.map_eq_some_iff.mp hr
    rfl

/-- The clock registers hold no moment before 2000 or after 2255. -/
def ofClock (t : DateTime) : PlannedWrite where
  register := Register.deviceClock
  value := 0
  request := clockRequest? t
  isWrite r hr := by
    obtain ⟨words, -, rfl⟩ := clockRequest_of_eq_some hr
    rfl

end PlannedWrite

/-- The present charging parameters by ascending address. -/
def chargingPlan (p : ChargingUpdate) : List PlannedWrite :=
  (p.settings.mergeSort ChargingUpdate.byAddress).map .ofWord

/-- What an operation is to write, in its order. -/
def Operation.plan : Operation → List PlannedWrite
  | updateConfig p =>
      (p.batteryType.map .ofType).toList
        ++ (p.batteryCapacity.map fun capacity => .ofWord (.ofCapacity capacity)).toList
        ++ (p.tempCompCoefficient.map fun x => .ofWord (.ofTempComp x)).toList
        ++ chargingPlan p.charging
        ++ (p.time.map .ofClock).toList
  | updateProfile p =>
      (p.batteryType.map .ofType).toList
        ++ (p.capacity.map fun capacity => .ofWord (.ofCapacity capacity)).toList
  | updateCharging p => chargingPlan p
  | setTime t => [.ofClock t]
  | _ => []

lemma plan_of_looks {op : Operation} (hop : op.isUpdate = false) : op.plan = [] := by
  cases op with
  | updateConfig p => cases hop
  | updateProfile p => cases hop
  | updateCharging p => cases hop
  | setTime t => cases hop
  | _ => rfl

lemma chargingPlan_eq (p : ChargingUpdate) : chargingPlan p = p.writes.map .ofWord := by
  rw [chargingPlan, ← p.writes_eq_sorted]

/-- The plan of a configuration update, cut where its stages are. -/
lemma updateConfig_plan (p : ConfigUpdate) :
    (Operation.updateConfig p).plan =
      (p.batteryType.map .ofType).toList ++ ((updateWrites p).map .ofWord ++
        (p.time.map .ofClock).toList) := by
  simp only [Operation.plan, updateWrites, chargingPlan_eq, List.map_append, List.append_assoc]
  cases p.batteryCapacity <;> cases p.tempCompCoefficient <;> rfl

/-- An update that touches charging parameters has something to write behind the gate. -/
lemma updateWrites_ne_nil {p : ConfigUpdate} (h : p.touchesCharging = true) :
    updateWrites p ≠ [] := by
  intro hnil
  simp only [updateWrites, List.append_eq_nil_iff, writes_eq_nil] at hnil
  obtain ⟨⟨-, htempComp⟩, hcharging⟩ := hnil
  have habsent : p.tempCompCoefficient = none := by simpa using htempComp
  simp only [ConfigUpdate.touchesCharging, habsent, hcharging] at h
  cases h

end Settings

end ChargeController
