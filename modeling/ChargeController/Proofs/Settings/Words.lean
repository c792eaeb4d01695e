import ChargeController.Settings.Charging
import Mathlib.Tactic.Lemma
import Mathlib.Tactic.Tauto

/-!
# The words of an update

The charging parameters are of three kinds, and an update lists its writes kind by kind, with the
periods at their places in between.  Seen from the registers there is only one kind: each setting
has a register of its own, and an update has at most one word for it.

* `Setting` — the charging parameters of all kinds, each with its register.
* `ChargingUpdate.otherRegisters` — the registers that belong to none of them.
* `ChargingUpdate.word` — the word that an update has for a setting.
* **`ChargingUpdate.mem_writes`** — the writes of an update are its words.
* **`writes_sublist`** — they are in the order of their registers.
-/

namespace ChargeController

/-! ## The settings of all kinds -/

/-- A charging parameter of any kind. -/
inductive Setting where
  | period (x : Period)
  | threshold (x : Threshold)
  | limit (x : TemperatureLimit)
deriving DecidableEq

namespace Setting

instance : Listed Setting where
  all := Listed.all.map period ++ Listed.all.map threshold ++ Listed.all.map limit
  mem_all s := by
    cases s with
    | period x => simp [Listed.mem_all x]
    | threshold x => simp [Listed.mem_all x]
    | limit x => simp [Listed.mem_all x]

/-- The register of a charging parameter. -/
def register : Setting → Register
  | period x => x.register
  | threshold x => x.register
  | limit x => x.register

lemma ext_address {s s' : Setting} (h : s.register.address = s'.register.address) : s = s' := by
  revert s s'
  decide

end Setting

/-- The registers of the battery and the clock, which have updates of their own. -/
def ChargingUpdate.otherRegisters : List Register :=
  [Register.batteryType, Register.batteryCapacity, Register.tempCompCoefficient,
    Register.deviceClock]

/-! ## The present settings -/

lemma mem_present {α β : Type} [Listed α] {f : α → Option β} {a : α} {y : β} :
    (a, y) ∈ Listed.present f ↔ f a = some y := by
  simp only [Listed.present]
  rw [List.mem_filterMap]
  constructor
  · rintro ⟨a', -, ha'⟩
    obtain ⟨y', hy', heq⟩ := Option.map_eq_some_iff.mp ha'
    cases heq
    exact hy'
  · intro hy
    exact ⟨a, Listed.mem_all a, by rw [hy]; rfl⟩

lemma present_eq_nil {α β : Type} [Listed α] {f : α → Option β} :
    Listed.present f = [] ↔ Listed.absent f = true := by
  simp only [Listed.present, Listed.absent]
  rw [List.filterMap_eq_nil_iff, List.all_eq_true]
  simp

lemma periodWrite_eq_nil {p : ChargingUpdate} {x : Period} :
    p.periodWrite x = [] ↔ p.period x = none := by
  simp [ChargingUpdate.periodWrite]

namespace ChargingUpdate

/-- The word that an update has for the register of a setting. -/
def word (p : ChargingUpdate) : Setting → Option UInt16
  | .period x => p.period x
  | .threshold x => (p.threshold x).map Register.ofVolts
  | .limit x => (p.limit x).map fun celsius => (Register.ofCelsius celsius).toUInt16

/-- That a present setting of an update has its register at an address. -/
def Names (p : ChargingUpdate) (a : UInt16) : Prop :=
  ∃ s : Setting, s.register.address = a ∧ (p.word s).isSome = true

/-- The writes of the present settings, kind by kind. -/
def settings (p : ChargingUpdate) : List RegisterWrite :=
  ((Listed.present p.period).map fun (x, n) => ⟨x.register, n⟩)
    ++ ((Listed.present p.threshold).map fun (x, volts) => ⟨x.register, Register.ofVolts volts⟩)
    ++ ((Listed.present p.limit).map fun (x, celsius) =>
      ⟨x.register, (Register.ofCelsius celsius).toUInt16⟩)

lemma map_present {α β γ : Type} [Listed α] (f : α → Option β) (g : α × β → γ) :
    (Listed.present f).map g =
      (Listed.all : List α).flatMap fun a => ((f a).map fun y => g (a, y)).toList := by
  simp only [Listed.present]
  induction (Listed.all : List α) with
  | nil => rfl
  | cons a rest ih =>
      rw [List.flatMap_cons, ← ih]
      cases hf : f a with
      | none => simp [hf]
      | some y => simp [hf]

/-- The periods stand in the order of their registers once the boost duration is put last. -/
lemma map_present_period (p : ChargingUpdate) :
    ((Listed.present p.period).map fun (x, n) => (⟨x.register, n⟩ : RegisterWrite)) =
      p.periodWrite .boost ++ (p.periodWrite .equalizationCycle ++
        (p.periodWrite .equalization ++ [])) :=
  map_present p.period _

lemma writes_perm (p : ChargingUpdate) : p.writes.Perm p.settings := by
  rw [List.perm_iff_count]
  intro w
  simp only [writes, settings, map_present_period, List.count_append, List.count_nil]
  omega

/-- **The writes of an update are its words**, each in the register of its setting. -/
theorem mem_writes {p : ChargingUpdate} {w : RegisterWrite} :
    w ∈ p.writes ↔ ∃ s : Setting, s.register = w.register ∧ p.word s = some w.value := by
  rw [(writes_perm p).mem_iff]
  simp only [settings, List.mem_append, List.mem_map, Prod.exists, mem_present]
  constructor
  · rintro ((⟨x, n, hx, rfl⟩ | ⟨x, volts, hx, rfl⟩) | ⟨x, celsius, hx, rfl⟩)
    · exact ⟨.period x, rfl, hx⟩
    · exact ⟨.threshold x, rfl, by simp [word, hx]⟩
    · exact ⟨.limit x, rfl, by simp [word, hx]⟩
  · intro h
    obtain ⟨r, value⟩ := w
    obtain ⟨s, rfl, hword⟩ := h
    cases s with
    | period x => exact .inl (.inl ⟨x, value, hword, rfl⟩)
    | threshold x =>
        obtain ⟨volts, hx, rfl⟩ := Option.map_eq_some_iff.mp hword
        exact .inl (.inr ⟨x, volts, hx, rfl⟩)
    | limit x =>
        obtain ⟨celsius, hx, rfl⟩ := Option.map_eq_some_iff.mp hword
        exact .inr ⟨x, celsius, hx, rfl⟩

end ChargingUpdate

/-- An update writes nothing only if it is empty. -/
lemma writes_eq_nil {p : ChargingUpdate} : p.writes = [] ↔ p.isEmpty = true := by
  have hperiods : Listed.absent p.period = true ↔ p.period .boost = none ∧
      p.period .equalizationCycle = none ∧ p.period .equalization = none := by
    simp [Listed.absent, Listed.all]
  simp only [ChargingUpdate.writes, ChargingUpdate.isEmpty, List.append_eq_nil_iff,
    List.map_eq_nil_iff, present_eq_nil, periodWrite_eq_nil, Bool.and_eq_true, hperiods]
  tauto

/-! ## The order of the writes -/

/-- The registers that a charging update may write, in the order in which it does. -/
def chargingRegisters : List Register :=
  ((Listed.all : List Threshold).map Threshold.register) ++ [Register.equalizationCycle]
    ++ ((Listed.all : List TemperatureLimit).map TemperatureLimit.register)
    ++ [Register.equalizationDuration] ++ [Register.boostDuration]

lemma present_sublist {α β γ : Type} [Listed α] (f : α → Option β) (g : α → γ) :
    (((Listed.present f).map fun y => g y.1)).Sublist ((Listed.all : List α).map g) := by
  simp only [Listed.present]
  induction (Listed.all : List α) with
  | nil => exact .slnil
  | cons a rest ih =>
      cases hf : f a with
      | none =>
          rw [List.filterMap_cons_none (by rw [hf]; rfl)]
          exact ih.cons _
      | some y =>
          rw [List.filterMap_cons_some (by rw [hf]; rfl), List.map_cons, List.map_cons]
          exact ih.cons_cons _

lemma periodWrite_sublist (p : ChargingUpdate) (x : Period) :
    ((p.periodWrite x).map (·.register)).Sublist [x.register] := by
  simp only [ChargingUpdate.periodWrite]
  cases p.period x with
  | none => exact List.nil_sublist _
  | some n => exact List.Sublist.refl _

/-- **The writes of a charging update are in the order of their registers.** -/
theorem writes_sublist (p : ChargingUpdate) :
    (p.writes.map (·.register)).Sublist chargingRegisters := by
  simp only [ChargingUpdate.writes, chargingRegisters]
  simp only [List.map_append, List.map_map]
  refine ((((?_ : List.Sublist _ _).append ?_).append ?_).append ?_).append ?_
  · exact present_sublist p.threshold Threshold.register
  · exact periodWrite_sublist p .equalizationCycle
  · exact present_sublist p.limit TemperatureLimit.register
  · exact periodWrite_sublist p .equalization
  · exact periodWrite_sublist p .boost

lemma ChargingUpdate.writes_pairwise (p : ChargingUpdate) :
    p.writes.Pairwise fun v w => v.register.address < w.register.address := by
  have hall : (chargingRegisters.map (·.address)).Pairwise (· < ·) := by decide
  have hsublist := (writes_sublist p).map (·.address)
  rw [List.map_map] at hsublist
  exact List.pairwise_map.mp (hall.sublist hsublist)

lemma writes_nodup (p : ChargingUpdate) : (p.writes.map (·.register.address)).Nodup := by
  refine List.pairwise_map.mpr (p.writes_pairwise.imp fun hlt => ?_)
  exact UInt16.ne_of_lt hlt

end ChargeController
