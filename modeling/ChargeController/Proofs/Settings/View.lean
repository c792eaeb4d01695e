import ChargeController.Proofs.Settings.Blocks
import ChargeController.Proofs.Settings.Coherence

/-!
# What registers are read as

Where all registers of the configuration have words and no request fails, a reading cannot fail:
the only words without a value are those of the clock, and they count as no moment.  What it finds
are the words of the very registers that the writers name, although the readers take them out of
blocks by their place.

* `Registers.Mapped` — all registers of the configuration have words.
* **`config_of_mapped`** — mapped registers have a configuration.
* **`config_holds`** — its charging parameters are the words of their registers.
* **`cachedConfig_of_faultless`** — where nothing fails, that is what is looked up, too.
-/

namespace ChargeController

open Settings Dialogue

namespace Settings

variable {α β : Type}

/-! ## Registers that have words -/

/-- All registers of the configuration have words. -/
def Registers.Mapped (b : Bank) : Prop :=
  ∀ (block : Block) (i : Nat), i < block.register.quantity.toNat →
    ∃ a word, Device.offsetAddress? block.register.address i = some a ∧ b a = some word

instance (b : Bank) : Decidable (Registers.Mapped b) :=
  decidable_of_iff (∀ (block : Block) (i : Nat), i < block.register.quantity.toNat →
      ((Device.offsetAddress? block.register.address i).bind b).isSome = true) <| by
    simp only [Registers.Mapped, Option.isSome_iff_exists, Option.bind_eq_some_iff]
    exact forall₃_congr fun _ _ _ => exists_comm.trans (by simp)

lemma exists_mapM {ε : Type} {f : α → Except ε β} {xs : List α} (h : ∀ x ∈ xs, ∃ y, f x = .ok y) :
    ∃ ys, xs.mapM f = .ok ys := by
  induction xs with
  | nil => exact ⟨[], rfl⟩
  | cons x xs ih =>
      obtain ⟨y, hy⟩ := h x List.mem_cons_self
      obtain ⟨ys, hys⟩ := ih fun x' hx' => h x' (List.mem_cons_of_mem _ hx')
      refine ⟨y :: ys, ?_⟩
      rw [List.mapM_cons, hy, hys]
      rfl

lemma Registers.Mapped.words {b : Bank} (h : Mapped b) (block : Block) :
    ∃ words, Device.readRegisters b none block.register.address block.register.quantity =
      .ok words ∧ words.length = block.register.quantity.toNat := by
  obtain ⟨words, hwords⟩ : ∃ words, Device.readRegisters b none block.register.address
      block.register.quantity = .ok words := by
    refine exists_mapM fun i hi => ?_
    obtain ⟨a, word, ha, hword⟩ := h block i (List.mem_range.mp hi)
    refine ⟨word, ?_⟩
    rw [Device.readRegister, ha]
    dsimp only
    rw [hword]
    rfl
  refine ⟨words, hwords, ?_⟩
  rw [← (mapM_eq_ok_iff.mp hwords).length_eq, List.length_range]

/-- **Mapped registers have a configuration.** -/
theorem config_of_mapped {b : Bank} (h : Registers.Mapped b) :
    ∃ c, Registers.config b = .ok c := by
  choose words hwords hlength using h.words
  have hbytes : ∀ block : Block,
      (Register.bytesOfWords (words block)).length = block.register.byteLength := by
    intro block
    rw [Register.length_bytesOfWords, hlength, Register.byteLength, Nat.mul_comm]
  have hmakes := makes_assembled fun b => (hbytes b).ge
  refine ⟨_, config_of_blockAnswers hmakes fun block answer hmem => ?_⟩
  rw [answer_of_mem_readout hmem, Registers.blockAnswer, hwords block]
  rfl

/-! ## The words of the settings -/

/-- Registers that hold charging parameters, each in the register that its writer names. -/
structure Registers.Holds (b : Bank) (p : ChargingParameters) : Prop where
  period (x : Period) : b x.register.address = some (p.period x)
  threshold (x : Threshold) : ∃ word, b x.register.address = some word ∧
    p.threshold x = Register.scaled word
  limit (x : TemperatureLimit) : ∃ word, b x.register.address = some word ∧
    p.limit x = Register.signedScaled word

lemma Understood.period_word {data : Block → Bytes} {p : ChargingParameters}
    (h : Understood data p) {b : Bank} (hread : Registers.Shows b data) (x : Period) :
    b x.register.address = some (p.period x) := by
  cases x with
  | equalizationCycle =>
      obtain ⟨words, hwords, hdata⟩ := hread .cycle
      obtain ⟨days, hdays, hperiod⟩ := h.cycle
      rw [hdata] at hdays
      have hplace : b Register.equalizationCycle.address = some ((words.take 1).getD 0 0) :=
        wordAt_row hwords (by decide) (by decide)
      rw [Period.register, hplace, hperiod, List.getD_eq_getElem?_getD,
        List.getElem?_take_of_lt Nat.one_pos, readWord_bytes hdays, Option.getD_some]
  | equalization =>
      obtain ⟨words, hwords, hdata⟩ := hread .durations
      obtain ⟨minutes, hminutes, hperiod, -⟩ := h.durations
      rw [hdata] at hminutes
      rw [hperiod, readWords_bytes hminutes]
      exact wordAt_row hwords (by decide) (by decide)
  | boost =>
      obtain ⟨words, hwords, hdata⟩ := hread .durations
      obtain ⟨minutes, hminutes, -, hperiod⟩ := h.durations
      rw [hdata] at hminutes
      rw [hperiod, readWords_bytes hminutes]
      exact wordAt_row hwords (by decide) (by decide)

lemma Understood.limit_word {data : Block → Bytes} {p : ChargingParameters}
    (h : Understood data p) {b : Bank} (hread : Registers.Shows b data) (x : TemperatureLimit) :
    ∃ word, b x.register.address = some word ∧ p.limit x = Register.signedScaled word := by
  obtain ⟨words, hwords, hdata⟩ := hread .limits
  obtain ⟨celsius, hcelsius, hlimit⟩ := h.limit
  rw [hdata] at hcelsius
  obtain ⟨row, hrow, rfl⟩ := ok_of_map hcelsius
  rw [hlimit, readWords_bytes hrow]
  exact valueAt_row hwords (by cases x <;> decide) (by cases x <;> decide)

/-- **What a configuration was read as is what the registers of its settings hold.** -/
theorem config_holds {b : Bank} {c : DeviceConfig} (h : Registers.config b = .ok c) :
    Registers.Holds b c.charging := by
  obtain ⟨data, hmakes, hread⟩ := config_makes h
  have hunderstood := hmakes.understood
  exact ⟨hunderstood.period_word hread, config_threshold h, hunderstood.limit_word hread⟩

/-! ## Where nothing fails -/

/-- Surroundings in which no request fails. -/
abbrev Faultless (ttl : Nat) : Surroundings (World Bank) Ask Reply :=
  World.Replies (Registers.Answers fun _ => False) ttl

variable {ttl : Nat} {w w' : World Bank}

/-- Where nothing fails, the answer to a read is what the registers hold. -/
lemma Registers.Answers.read_of_faultless {b b' : Bank} {a q : UInt16} {answer : Answer}
    (h : Answers (fun _ => False) b (.read .holding a q) answer b') :
    answer = Register.bytesOfWords <$> Device.readRegisters b none a q := by
  cases h with
  | fail allowed => exact absurd allowed id
  | holding => rfl
  | elsewhere other => exact absurd rfl other
  | accept write _ => cases write
  | overflow write _ => cases write

/-- Where nothing fails, a write of one register is accepted. -/
lemma Registers.Answers.word_of_faultless {b b' : Bank} {a value : UInt16} {answer : Answer}
    (h : Answers (fun _ => False) b (.writeWord a value) answer b') :
    ∃ data, answer = .ok data := by
  cases h with
  | fail allowed => exact absurd allowed id
  | accept _ _ => exact ⟨_, rfl⟩
  | overflow _ full => exact absurd trivial full

/-- A request that is sent first is answered by the device as it is. -/
lemma answers_of_sent {r : Request} {answer : Answer} {es : List Line}
    (h : Answered (Faultless ttl) w (⟨.send r, answer⟩ :: es) w') :
    ∃ b, Registers.Answers (fun _ => False) w.device r answer b := by
  obtain ⟨_, hreply, -⟩ := answered_cons.mp h
  cases hreply with
  | send hanswer _ => exact ⟨_, hanswer⟩

lemma answer_of_answered {es : List Line} (h : Answered (Faultless ttl) w es w')
    (hnone : ∀ e ∈ es, e.stores = false) {a q : UInt16} {answer : Answer}
    (hmem : (⟨.send (.read .holding a q), answer⟩ : Line) ∈ es) :
    answer = Register.bytesOfWords <$> Device.readRegisters w.device none a q := by
  obtain ⟨w₁, w₂, hsame, hreply⟩ := reply_of_answered h hnone hmem
  rw [← hsame]
  cases hreply with
  | send hanswer _ => exact hanswer.read_of_faultless

/-- Where nothing fails, a reading finds what the registers are read as, be it a fault. -/
lemma config_of_faultless {reads : List Line} {result : Except SettingsFault DeviceConfig}
    (h : Answered (Faultless ttl) w reads w')
    (hreads : Tells readConfig reads result) : Registers.config w.device = result := by
  have hnone := storeless_consults.readConfig _ _ hreads
  refine config_of_blockAnswers hreads fun block answer hmem => ?_
  cases block <;> exact answer_of_answered h hnone hmem

/-- **Where nothing fails, what is looked up is what the registers are read as.** -/
theorem cachedConfig_of_faultless {es : List Line} {result : Except SettingsFault DeviceConfig}
    (hw : Coherent w) (h : Answered (Faultless ttl) w es w')
    (htells : Tells cachedConfig es result) : Registers.config w.device = result := by
  cases result with
  | ok c => exact hw.cached h htells
  | error fault =>
      rcases tells_cachedConfig.mp htells with ⟨_, -, hok⟩ | ⟨g, reads, _, rfl, hreads, hfault⟩ |
        ⟨_, _, _, -, -, hok⟩
      · cases hok
      · obtain ⟨w₁, hlookUp, hrest⟩ := answered_cons.mp h
        rw [hfault, ← config_of_faultless hrest hreads, device_of_replies hlookUp]
        rfl
      · cases hok

end Settings

end ChargeController
