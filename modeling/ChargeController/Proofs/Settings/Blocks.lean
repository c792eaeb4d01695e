import ChargeController.Proofs.Register.Moments
import ChargeController.Proofs.Register.Payload
import ChargeController.Proofs.Settings.Reading

/-!
# Reading block by block

A reading asks for one block after the other and makes sense of each answer before it asks for the
next, so it ends at the first answer that is a fault or has too few bytes.  Nothing else can stop
it: the only bytes without a value are those of a clock that names no moment, and they leave the
configuration without a time.  Enough bytes make a configuration of the words that stand in each
block at the places of the settings' own registers.

* `ReadThrough` — the reads of some blocks, up to the first answer that is of no use.
* `assembled` — the configuration that the bytes of the blocks hold.
* **`tells_readConfig`** — a reading reads through the six blocks and assembles what it found.
-/

namespace ChargeController

open Settings Dialogue

/-- The request that a line is. -/
def Exchange.request? : Exchange Ask Reply → Option Request
  | ⟨.send r, _⟩ => some r
  | _ => none

namespace Settings

variable {α : Type}

/-! ## Requests -/

/-- The requests among some lines. -/
def sent (es : List Line) : List Request :=
  es.filterMap (·.request?)

/-- The requests among some lines, with their answers. -/
def exchanged (es : List Line) : List Line :=
  es.filter (·.request?.isSome)

/-! ## Blocks one after the other -/

/-- The reads of some blocks, one after the other, up to the first answer that is a fault or has
too few bytes; with what that answer makes of the whole reading. -/
inductive ReadThrough : List Block → List Line → Option SettingsFault → Prop
  | all : ReadThrough [] [] none
  | refused {b : Block} {rest source} :
      ReadThrough (b :: rest) [⟨.send b.register.readRequest, .error source⟩]
        (some (.read b.register.name b.register.address source))
  | short {b : Block} {rest data what expected} (lacks : data.length < expected)
      (needed : expected ≤ b.register.byteLength) :
      ReadThrough (b :: rest) [b.line data]
        (some (.decode b.register.name b.register.address (.tooShort what expected data.length)))
  | next {b : Block} {rest data es fault} (long : b.register.byteLength ≤ data.length)
      (later : ReadThrough rest es fault) : ReadThrough (b :: rest) (b.line data :: es) fault

/-- **What is sent are the reads of the blocks in their order**, as far as it goes. -/
theorem ReadThrough.sent_prefix {blocks : List Block} {es : List Line}
    {fault : Option SettingsFault} (h : ReadThrough blocks es fault) :
    sent es <+: blocks.map (·.register.readRequest) := by
  induction h with
  | all => exact List.nil_prefix
  | refused => exact (List.prefix_cons_inj _).mpr List.nil_prefix
  | short _ _ => exact (List.prefix_cons_inj _).mpr List.nil_prefix
  | next _ _ ih => exact (List.prefix_cons_inj _).mpr ih

lemma ReadThrough.sent_ne_nil {b : Block} {rest : List Block} {es : List Line}
    {fault : Option SettingsFault} (h : ReadThrough (b :: rest) es fault) : sent es ≠ [] := by
  cases h with
  | refused => exact List.cons_ne_nil _ _
  | short _ _ => exact List.cons_ne_nil _ _
  | next _ _ => exact List.cons_ne_nil _ _

/-- Nothing is said but requests. -/
lemma ReadThrough.exchanged_eq {blocks : List Block} {es : List Line}
    {fault : Option SettingsFault} (h : ReadThrough blocks es fault) : exchanged es = es := by
  induction h with
  | all => rfl
  | refused => rfl
  | short _ _ => rfl
  | @next b rest data es fault _ _ ih => exact congrArg (b.line data :: ·) ih

/-- Blocks that were all read had enough bytes. -/
lemma ReadThrough.complete {blocks : List Block} {es : List Line}
    (h : ReadThrough blocks es none) (hdistinct : blocks.Nodup) :
    ∃ data : Block → Bytes, (∀ b ∈ blocks, b.register.byteLength ≤ (data b).length) ∧
      es = blocks.map fun b => b.line (data b) := by
  generalize hnone : none = fault at h
  induction h with
  | all => exact ⟨fun _ => [], fun _ hb => absurd hb List.not_mem_nil, rfl⟩
  | refused => cases hnone
  | short _ _ => cases hnone
  | @next b rest bytes es fault long _ ih =>
      obtain ⟨hb, hrest⟩ := List.nodup_cons.mp hdistinct
      obtain ⟨data, hlong, rfl⟩ := ih hrest hnone
      have hother (b' : Block) (hb' : b' ∈ rest) : Function.update data b bytes b' = data b' :=
        Function.update_of_ne (ne_of_mem_of_not_mem hb' hb) _ _
      refine ⟨Function.update data b bytes, ?_, ?_⟩
      · intro b' hb'
        rcases List.mem_cons.mp hb' with rfl | hb'
        · rwa [Function.update_self]
        · rw [hother b' hb']
          exact hlong b' hb'
      · rw [List.map_cons, Function.update_self]
        exact congrArg _ (List.map_congr_left fun b' hb' => by rw [hother b' hb'])

/-! ## A procedure that reads blocks -/

/-- The fault that an outcome is. -/
def faultOf {ε : Type} : Except ε α → Option ε
  | .ok _ => none
  | .error fault => some fault

/-- A procedure that does nothing but read some blocks, and that has a fault only if an answer is
of no use. -/
def Follows (blocks : List Block) (p : Procedure α) : Prop :=
  ∀ es result, Tells p es result → ReadThrough blocks es (faultOf result)

lemma Follows.pure (a : α) : Follows [] (pure a : Procedure α) := by
  intro es result h
  obtain ⟨rfl, rfl⟩ := tells_pure.mp h
  exact .all

/-- A block is read, its bytes are refused if they are too few, and then the others are read. -/
lemma Follows.read {b : Block} {rest : List Block} {k : Bytes → Procedure α}
    (short : ∀ data, data.length < b.register.byteLength → ∃ what expected,
      data.length < expected ∧ expected ≤ b.register.byteLength ∧
        k data = throw (.decode b.register.name b.register.address
          (.tooShort what expected data.length)))
    (long : ∀ data, b.register.byteLength ≤ data.length → Follows rest (k data)) :
    Follows (b :: rest) (readRegister b.register >>= k) := by
  intro es result h
  rcases tells_bind.mp h with ⟨fault, hfault, rfl⟩ | ⟨first, data, second, rfl, hread, hrest⟩
  · rcases tells_readRegister.mp hfault with ⟨_, -, hok⟩ | ⟨source, rfl, hsource⟩
    · cases hok
    · obtain rfl := Except.error.inj hsource
      exact .refused
  · obtain rfl := tells_readRegister_ok.mp hread
    by_cases hlength : data.length < b.register.byteLength
    · obtain ⟨what, expected, hlacks, hneeded, hthrow⟩ := short data hlength
      rw [hthrow] at hrest
      obtain ⟨rfl, rfl⟩ := tells_throw.mp hrest
      exact .short hlacks hneeded
    · have henough := Nat.not_lt.mp hlength
      exact .next henough (long data henough _ _ hrest)

/-! ## The six blocks -/

/-- A block whose bytes all belong to one value. -/
lemma Follows.block {γ : Type} {b : Block} {rest : List Block} {what : String}
    {decode : Bytes → Except RegisterFault γ} {value : Bytes → γ} {f : γ → Procedure α}
    (hdecode : ∀ data, decode data =
      if data.length < b.register.byteLength then
        .error (.tooShort what b.register.byteLength data.length)
      else .ok (value data))
    (later : ∀ a, Follows rest (f a)) :
    Follows (b :: rest)
      (readRegister b.register >>= fun data => decoded b.register (decode data) >>= f) := by
  refine .read (fun data hshort => ⟨what, _, hshort, Nat.le_refl _, ?_⟩) fun data hlong => ?_
  · rw [hdecode, if_pos hshort]
    rfl
  · rw [hdecode, if_neg (Nat.not_lt.mpr hlong)]
    exact later (value data)

/-- The bytes of a clock are too few, or they name a moment or none. -/
lemma clockTime_eq (data : Bytes) :
    clockTime data =
      if data.length < 6 then throw (.decode Register.deviceClock.name Register.deviceClock.address
        (.tooShort "clock" 6 data.length))
      else pure (Register.readClock data).toOption := by
  rcases Register.readClock_cases data with ⟨hshort, -, hclock⟩ | ⟨hlong, -, _, hclock⟩ |
    ⟨hlong, -, _, _, _, _, _, _, hclock⟩
  · rw [if_pos hshort, clockTime, hclock]
  · rw [if_neg (Nat.not_lt.mpr hlong), clockTime, hclock]
    rfl
  · rw [if_neg (Nat.not_lt.mpr hlong), clockTime, hclock]
    rfl

/-- **A reading of the configuration reads its six blocks.** -/
theorem follows_readConfig : Follows Listed.all readConfig := by
  refine .read (b := .battery) (fun data (hshort : data.length < 2 * 2 + 1 * 2) => ?_)
    fun battery (hlong : 2 * 2 + 1 * 2 ≤ battery.length) => ?_
  · -- The first two words are taken before the bytes of the third are looked for.
    rw [Register.readWords_eq, Register.readScaled_slice, if_pos hshort]
    by_cases hidentity : data.length < 2 * 2
    · refine ⟨"ints", 2 * 2, hidentity, by decide, ?_⟩
      rw [if_pos hidentity]
      rfl
    · refine ⟨"register slice", 2 * 2 + 1 * 2, hshort, Nat.le_refl _, ?_⟩
      rw [if_neg hidentity]
      rfl
  rw [Register.readWords_eq, if_neg (by omega), Register.readScaled_slice, if_neg (by omega)]
  refine .read (b := .clock) (fun data (hshort : data.length < 6) => ?_)
    fun clock (hlong : 6 ≤ clock.length) => ?_
  · refine ⟨"clock", 6, hshort, Nat.le_refl _, ?_⟩
    rw [clockTime_eq, if_pos hshort]
    rfl
  rw [clockTime_eq, if_neg (Nat.not_lt.mpr hlong)]
  refine .block (b := .thresholds) (Register.readScaledRow_eq 12) fun _ => ?_
  refine .block (b := .cycle) (Register.readWord_eq "int") fun _ => ?_
  refine .block (b := .durations) (Register.readWords_eq "ints" 2) fun _ => ?_
  refine .block (b := .limits) (Register.readSignedScaledRow_eq 4) fun _ => ?_
  exact .pure _

/-! ## What the bytes hold -/

/-- The word that the bytes of a block have at the place of one of its registers. -/
def wordOf (data : Block → Bytes) (b : Block) (r : Register) : UInt16 :=
  Register.wordAt (data b) (b.register.offsetIn r)

/-- The configuration that the bytes of the blocks hold: each setting is the word of its own
register, and the time is there if the clock names a moment. -/
def assembled (data : Block → Bytes) : DeviceConfig where
  time := (Register.readClock (data .clock)).toOption
  batteryType := BatteryType.ofCode (wordOf data .battery Register.batteryType).toNat
  batteryCapacity := wordOf data .battery Register.batteryCapacity
  tempCompCoefficient := Register.scaled (wordOf data .battery Register.tempCompCoefficient)
  charging := {
    period := fun
      | .boost => wordOf data .durations Register.boostDuration
      | .equalizationCycle => wordOf data .cycle Register.equalizationCycle
      | .equalization => wordOf data .durations Register.equalizationDuration
    threshold := fun x => Register.scaled (wordOf data .thresholds x.register)
    limit := fun x => Register.signedScaled (wordOf data .limits x.register) }

/-- A configuration lacks the time exactly if the clock names no moment. -/
lemma assembled_time_eq_none {data : Block → Bytes} (h : 6 ≤ (data .clock).length) :
    (assembled data).time = none ↔ ¬ Register.NamesMoment (data .clock) := by
  rw [assembled]
  rcases Register.readClock_cases (data .clock) with ⟨hshort, -⟩ | ⟨-, hnamed, moment, hclock⟩ |
    ⟨-, hunnamed, _, _, _, _, _, _, hclock⟩
  · omega
  · rw [hclock]
    exact ⟨fun hnone => absurd hnone (Option.some_ne_none moment), fun h => absurd hnamed h⟩
  · rw [hclock]
    exact ⟨fun _ => hunnamed, fun _ => rfl⟩

lemma valueAt_range {g : Nat → Single} {n : Nat} {block r : Register} (h : block.offsetIn r < n) :
    valueAt ((List.range n).map g) block r = g (block.offsetIn r) := by
  simp [valueAt, h]

/-- **Enough bytes make the configuration that they hold.** -/
theorem makes_assembled {data : Block → Bytes}
    (hdata : ∀ b : Block, b.register.byteLength ≤ (data b).length) :
    Makes data (assembled data) := by
  have hbattery : 2 * 2 + 1 * 2 ≤ (data .battery).length := hdata .battery
  have hread (b : Block) : Tells (readRegister b.register) [b.line (data b)] (.ok (data b)) :=
    tells_readRegister_ok.mpr rfl
  have hok {γ : Type} {r : Register} {x : Except RegisterFault γ} {short : Prop} [Decidable short]
      {fault : RegisterFault} {a : γ} (hx : x = if short then .error fault else .ok a)
      (hlong : ¬ short) : Tells (decoded r x) [] (.ok a) :=
    tells_decoded_ok.mpr ⟨rfl, hx.trans (if_neg hlong)⟩
  have hclock : Tells (clockTime (data .clock)) [] (.ok (assembled data).time) := by
    have hlong : 6 ≤ (data .clock).length := hdata .clock
    rw [clockTime_eq, if_neg (Nat.not_lt.mpr hlong)]
    exact .stay _
  refine tells_bind_ok.mpr ⟨_, _, _, rfl, hread .battery, ?_⟩
  refine tells_bind_ok.mpr ⟨_, _, _, rfl, hok (Register.readWords_eq ..) (by omega), ?_⟩
  refine tells_bind_ok.mpr ⟨_, _, _, rfl, hok (Register.readScaled_slice ..) (by omega), ?_⟩
  refine tells_bind_ok.mpr ⟨_, _, _, rfl, hread .clock, ?_⟩
  refine tells_bind_ok.mpr ⟨_, _, _, rfl, hclock, ?_⟩
  refine tells_bind_ok.mpr ⟨_, _, _, rfl, hread .thresholds, ?_⟩
  refine tells_bind_ok.mpr
    ⟨_, _, _, rfl, hok (Register.readScaledRow_eq ..) (Nat.not_lt.mpr (hdata .thresholds)), ?_⟩
  refine tells_bind_ok.mpr ⟨_, _, _, rfl, hread .cycle, ?_⟩
  refine tells_bind_ok.mpr
    ⟨_, _, _, rfl, hok (Register.readWord_eq ..) (Nat.not_lt.mpr (hdata .cycle)), ?_⟩
  refine tells_bind_ok.mpr ⟨_, _, _, rfl, hread .durations, ?_⟩
  refine tells_bind_ok.mpr
    ⟨_, _, _, rfl, hok (Register.readWords_eq ..) (Nat.not_lt.mpr (hdata .durations)), ?_⟩
  refine tells_bind_ok.mpr ⟨_, _, _, rfl, hread .limits, ?_⟩
  refine tells_bind_ok.mpr
    ⟨_, _, _, rfl, hok (Register.readSignedScaledRow_eq ..) (Nat.not_lt.mpr (hdata .limits)), ?_⟩
  refine tells_pure.mpr ⟨rfl, congrArg Except.ok ?_⟩
  have hthreshold (x : Threshold) := valueAt_range
    (g := fun i => Register.scaled (Register.wordAt (data .thresholds) i))
    (show Register.voltageThresholds.offsetIn x.register < 12 by cases x <;> decide)
  have hlimit (x : TemperatureLimit) := valueAt_range
    (g := fun i => Register.signedScaled (Register.wordAt (data .limits) i))
    (show Register.temperatureLimits.offsetIn x.register < 4 by cases x <;> decide)
  simp only [hthreshold, hlimit]
  rfl

/-- **A reading reads through its blocks**: it stops at the first answer that is of no use, or it
makes the configuration that the answers hold. -/
theorem tells_readConfig {es : List Line} {result : Except SettingsFault DeviceConfig}
    (h : Tells readConfig es result) :
    (∃ fault, ReadThrough Listed.all es (some fault) ∧ result = .error fault) ∨
      ∃ data : Block → Bytes, (∀ b, b.register.byteLength ≤ (data b).length) ∧
        es = readout data ∧ result = .ok (assembled data) := by
  have hfollows := follows_readConfig es result h
  cases result with
  | error fault => exact .inl ⟨fault, hfollows, rfl⟩
  | ok c =>
      obtain ⟨data, hlong, rfl⟩ := hfollows.complete (by decide)
      have hdata (b : Block) := hlong b (Listed.mem_all b)
      exact .inr ⟨data, hdata, rfl, Dialogue.done.inj (h.unique (makes_assembled hdata))⟩

end Settings

end ChargeController
