import ChargeController.Proofs.Settings.Thresholds

/-!
# Updates on top of updates

An update is looked at in three ways: whether it is empty, what it makes of the parameters that are
to be checked, and what it writes.  All three go by the same settings.  So two updates, one on top
of the other, are a single one, in which the later word of a setting counts.

* `ChargingUpdate.upon` — an update on top of another.
* **`onto_onto`** — parameters under two updates are those under the one that they make.
* **`writes_perm_present`** — an update writes each of its settings once.
* `ChargingUpdate.apart_from_charging` — no register beside the charging parameters is written.
* **`writes_of_settings`** — the writes of an update, and what updates on top of each other come to.
-/

namespace ChargeController

namespace ChargingUpdate

/-! ## One on top of the other -/

/-- The update that takes a setting from `q` if it is present there, and from `p` if not. -/
def upon (q p : ChargingUpdate) : ChargingUpdate where
  period x := (q.period x).or (p.period x)
  threshold x := (q.threshold x).or (p.threshold x)
  limit x := (q.limit x).or (p.limit x)

/-- **Two updates are one.** -/
theorem onto_onto (q p : ChargingUpdate) (base : ChargingParameters) :
    q.onto (p.onto base) = (q.upon p).onto base := by
  simp only [onto, upon, Option.getD_or]

lemma word_upon (q p : ChargingUpdate) (s : Setting) :
    (q.upon p).word s = (q.word s).or (p.word s) := by
  cases s with
  | period x => rfl
  | threshold x => exact Option.map_or
  | limit x => exact Option.map_or

/-! ## One write for each setting -/

lemma settings_eq (p : ChargingUpdate) :
    p.settings = (Listed.present p.word).map fun (s, word) => ⟨s.register, word⟩ := by
  have hall : (Listed.all : List Setting) =
      Listed.all.map .period ++ Listed.all.map .threshold ++ Listed.all.map .limit := rfl
  simp only [settings, map_present]
  rw [hall]
  simp only [List.flatMap_append, List.flatMap_map, word, Option.map_map]
  rfl

/-- **An update writes each of its settings once**, and nothing else. -/
theorem writes_perm_present (p : ChargingUpdate) :
    p.writes.Perm ((Listed.present p.word).map fun (s, word) => ⟨s.register, word⟩) :=
  settings_eq p ▸ writes_perm p

/-- An address that is apart from a register lies before it or behind it. -/
lemma before_or_behind {a : UInt16} {r : Register} (h : Settings.Registers.Apart a r)
    (hfits : r.address.toNat + r.quantity.toNat < UInt16.size) :
    a < r.address ∨ r.address + r.quantity ≤ a := by
  by_cases hbefore : a < r.address
  · exact .inl hbefore
  · refine .inr (UInt16.le_iff_toNat_le.mpr (Nat.le_of_not_lt fun hlt => ?_))
    rw [UInt16.toNat_add, Nat.mod_eq_of_lt hfits] at hlt
    have hle := UInt16.le_iff_toNat_le.mp (UInt16.not_lt.mp hbefore)
    refine h.2 (a.toNat - r.address.toNat) (by omega) (Device.offsetAddress?_eq_some.mpr ?_)
    omega

/-- No register of the battery or the clock is written. -/
lemma apart_from_charging {p : ChargingUpdate} {w : RegisterWrite} (hw : w ∈ p.writes)
    {r : Register} (hr : r ∈ otherRegisters) :
    w.register.address < r.address ∨ r.address + r.quantity ≤ w.register.address := by
  obtain ⟨s, hs, -⟩ := mem_writes.mp hw
  rw [← hs]
  refine before_or_behind (apart_setting hr s) ?_
  revert r
  decide

/-- **What an update writes, and what updates on top of each other come to.**

* The writes of an update are in the order of their addresses, so no register has two.
* There is one for each setting that is present, with its word, none in the registers of the battery
  and the clock, and none at all exactly if the update is empty.
* An update on top of another makes of all parameters what a single one makes of them; that one has
  each setting and each word from the upper update if it is present there, and else from the
  lower. -/
theorem writes_of_settings :
    (∀ p : ChargingUpdate,
      (p.writes.map (·.register.address)).Pairwise (· < ·) ∧
      p.writes.Perm ((Listed.present p.word).map fun (s, word) => ⟨s.register, word⟩) ∧
      (∀ w ∈ p.writes, ∀ r ∈ otherRegisters,
        w.register.address < r.address ∨ r.address + r.quantity ≤ w.register.address) ∧
      (p.writes = [] ↔ p.isEmpty = true)) ∧
    ∀ p q : ChargingUpdate,
      (∀ base, q.onto (p.onto base) = (q.upon p).onto base) ∧
      ∀ s, (q.upon p).word s = (q.word s).or (p.word s) := by
  refine ⟨fun p => ⟨List.pairwise_map.mpr (writes_pairwise p), writes_perm_present p,
    fun w hw r hr => apart_from_charging hw hr, writes_eq_nil⟩, fun p q => ⟨?_, ?_⟩⟩
  · exact onto_onto q p
  · exact word_upon q p

/-- A boost duration of 90 minutes and a float voltage of 13.9. -/
def dayCharge : ChargingUpdate where
  period x := if x = .boost then some 90 else none
  threshold x := if x = .float then some (Register.scaled 1390) else none
  limit _ := none

/-- A float voltage of 13.7 and a battery that may not freeze. -/
def winterCharge : ChargingUpdate where
  period _ := none
  threshold x := if x = .float then some (Register.scaled 1370) else none
  limit x := if x = .batteryLower then some (Register.signedScaled 0) else none

/-- In winter, the float voltage of the day does not count, and the boost duration does. -/
theorem winter_over_day :
    let base : ChargingParameters :=
      ⟨fun _ => 120, fun _ => Register.scaled 1440, fun _ => Register.signedScaled 6500⟩
    let write : RegisterWrite := ⟨Register.boostDuration, 90⟩
    write ∈ dayCharge.writes ∧ Register.deviceClock ∈ otherRegisters ∧
      Register.deviceClock.address + Register.deviceClock.quantity ≤ write.register.address ∧
      winterCharge.onto (dayCharge.onto base) = (winterCharge.upon dayCharge).onto base ∧
      (winterCharge.upon dayCharge).word (.period .boost) = some 90 ∧
      (winterCharge.upon dayCharge).word (.threshold .float) =
        winterCharge.word (.threshold .float) := by
  intro base write
  obtain ⟨hwrites, hupon⟩ := writes_of_settings
  obtain ⟨-, -, hapart, -⟩ := hwrites dayCharge
  obtain ⟨honto, hword⟩ := hupon dayCharge winterCharge
  have hwrite : write ∈ dayCharge.writes := mem_writes.mpr ⟨.period .boost, rfl, rfl⟩
  have hclock : Register.deviceClock ∈ otherRegisters := by decide
  exact ⟨hwrite, hclock, (hapart write hwrite _ hclock).resolve_left (by decide), honto base,
    hword (.period .boost), hword (.threshold .float)⟩

end ChargingUpdate

end ChargeController
