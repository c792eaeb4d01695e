import ChargeController.Proofs.Settings.Gate
import ChargeController.Proofs.Settings.Plan
import ChargeController.Proofs.Settings.View

/-!
# What was written is read back

Writers name nineteen registers one by one, and readers find their words in blocks.  Both agree:
where no request fails, the parameters that an update reads back are the ones it found with its own
on top, as far as registers can hold them, and no other register has changed.

* **`after_word`** — the register of a setting after the writes of an update.
* **`Registers.Holds.merge`** — what is then read.
* **`update_reads_back`** — what an update that passes the checks returns and leaves.
-/

namespace ChargeController

open Settings Dialogue

/-! ## What registers keep of an update -/

namespace ChargingUpdate

/-- The values that registers keep of an update. -/
def asStored (p : ChargingUpdate) : ChargingUpdate where
  period := p.period
  threshold x := (p.threshold x).map fun volts => Register.scaled (Register.ofVolts volts)
  limit x := (p.limit x).map fun celsius =>
    Register.signedScaled (Register.ofCelsius celsius).toUInt16

/-- The update that has all parameters. -/
def whole (base : ChargingParameters) : ChargingUpdate where
  period x := some (base.period x)
  threshold x := some (base.threshold x)
  limit x := some (base.limit x)

/-- That an update passes the checks on top of some parameters. -/
def Passes (p : ChargingUpdate) (base : ChargingParameters) : Prop :=
  (p.onto base).checkRanges = .ok () ∧ (p.onto base).checkOrder = .ok ()

lemma isOk_iff {ε : Type} {x : Except ε Unit} : x.isOk = true ↔ x = .ok () := by
  cases x with
  | ok u => exact ⟨fun _ => rfl, fun _ => rfl⟩
  | error fault =>
      constructor
      · intro h
        cases h
      · intro h
        cases h

instance (p : ChargingUpdate) (base : ChargingParameters) : Decidable (p.Passes base) :=
  decidable_of_iff
    ((p.onto base).checkRanges.isOk = true ∧ (p.onto base).checkOrder.isOk = true)
    (and_congr isOk_iff isOk_iff)

end ChargingUpdate

/-! ## Registers after an update -/

namespace Settings

variable {p : ChargingUpdate} {es : List Line}

/-- **The register of a setting after the writes of an update** has the update's word, or else the
word that it had. -/
theorem after_word (h : Stored p.writes es) (b : Bank) (s : Setting) :
    Registers.after b es s.register.address = (p.word s).or (b s.register.address) := by
  cases hword : p.word s with
  | some word =>
      have hmem : ⟨s.register, word⟩ ∈ p.writes :=
        ChargingUpdate.mem_writes.mpr ⟨s, rfl, hword⟩
      rw [Option.some_or]
      exact h.after_of_mem (writes_nodup p) hmem b
  | none =>
      rw [Option.none_or]
      refine h.after_of_ne (fun w hw haddress => ?_) b
      obtain ⟨s', hregister, hword'⟩ := ChargingUpdate.mem_writes.mp hw
      rw [← hregister] at haddress
      rw [Setting.ext_address haddress, hword] at hword'
      cases hword'

/-- No other register changes. -/
lemma after_unnamed (h : Stored p.writes es) (b : Bank) {a : UInt16} (ha : ¬ p.Names a) :
    Registers.after b es a = b a := by
  refine h.after_of_ne (fun w hw haddress => ha ?_) b
  obtain ⟨s, hregister, hword⟩ := ChargingUpdate.mem_writes.mp hw
  exact ⟨s, by rw [hregister, haddress], by rw [hword]; rfl⟩

/-- What is read from a register once it has been given a new value, if it has been. -/
lemma read_merged {decode : UInt16 → Single} {encode : Single → UInt16} {b b' : Bank} {a : UInt16}
    {new : Option Single} {before after : Single}
    (hbefore : ∃ word, b a = some word ∧ before = decode word)
    (hafter : ∃ word, b' a = some word ∧ after = decode word)
    (h : b' a = (new.map encode).or (b a)) :
    after = (new.map fun value => decode (encode value)).getD before := by
  obtain ⟨word, hword, rfl⟩ := hbefore
  obtain ⟨word', hword', rfl⟩ := hafter
  rw [hword, hword'] at h
  cases new with
  | none =>
      rw [Option.map_none, Option.none_or] at h
      rw [Option.some.inj h]
      rfl
  | some value =>
      rw [Option.map_some, Option.some_or] at h
      rw [Option.some.inj h]
      rfl

namespace Registers

/-- **What is read after an update** is what was read before with the update on top. -/
theorem Holds.merge {b b' : Bank} {base params : ChargingParameters} (h : Holds b base)
    (h' : Holds b' params)
    (hafter : ∀ s : Setting, b' s.register.address = (p.word s).or (b s.register.address)) :
    params = p.asStored.onto base := by
  have hperiod : params.period = (p.asStored.onto base).period := by
    funext x
    have heq : b' x.register.address = (p.period x).or (b x.register.address) :=
      hafter (.period x)
    rw [h.period, h'.period] at heq
    show params.period x = (p.period x).getD (base.period x)
    cases hx : p.period x with
    | none => simpa [hx] using heq
    | some n => simpa [hx] using heq
  have hthreshold : params.threshold = (p.asStored.onto base).threshold := by
    funext x
    exact read_merged (h.threshold x) (h'.threshold x) (hafter (.threshold x))
  have hlimit : params.limit = (p.asStored.onto base).limit := by
    funext x
    exact read_merged (h.limit x) (h'.limit x) (hafter (.limit x))
  show ChargingParameters.mk params.period params.threshold params.limit = p.asStored.onto base
  rw [hperiod, hthreshold, hlimit]

/-- The words of parameters that were read are the words that they were read from. -/
lemma Holds.word_whole {b : Bank} {base : ChargingParameters} (h : Holds b base) (s : Setting) :
    (ChargingUpdate.whole base).word s = b s.register.address := by
  cases s with
  | period x => exact (h.period x).symm
  | threshold x =>
      obtain ⟨word, hword, hvalue⟩ := h.threshold x
      show some (Register.ofVolts (base.threshold x)) = b x.register.address
      rw [hvalue, Register.ofVolts_scaled, hword]
  | limit x =>
      obtain ⟨word, hword, hvalue⟩ := h.limit x
      show some (Register.ofCelsius (base.limit x)).toUInt16 = b x.register.address
      rw [hvalue, Register.ofCelsius_signedScaled, hword]

/-- **Writing back all that was read changes nothing.** -/
theorem Holds.after_whole {b : Bank} {base : ChargingParameters} (h : Holds b base)
    (hes : Stored (ChargingUpdate.whole base).writes es) : after b es = b := by
  funext a
  by_cases ha : (ChargingUpdate.whole base).Names a
  · obtain ⟨s, rfl, -⟩ := ha
    rw [after_word hes, h.word_whole, Option.or_self]
  · exact after_unnamed hes b ha

/-- Writes leave a register with a word, if it had one. -/
lemma Mapped.after {b : Bank} (h : Mapped b) (hes : Stored p.writes es) : Mapped (after b es) := by
  intro block i hi
  obtain ⟨a, word, ha, hword⟩ := h block i hi
  refine ⟨a, ?_⟩
  by_cases hnames : p.Names a
  · obtain ⟨s, rfl, hpresent⟩ := hnames
    obtain ⟨new, hnew⟩ := Option.isSome_iff_exists.mp hpresent
    exact ⟨new, ha, by rw [after_word hes, hnew, Option.some_or]⟩
  · exact ⟨word, ha, by rw [after_unnamed hes b hnames, hword]⟩

end Registers

/-! ## Where nothing fails -/

variable {ttl : Nat} {w w' : World Bank}

lemma readRegisters_batteryType {b : Bank} (h : HoldsUserDefined b) :
    Device.readRegisters b none Register.batteryType.address Register.batteryType.quantity =
      .ok [4] := by
  have hword : Device.readRegister b none Register.batteryType.address 0 = .ok 4 := by
    have hsame : Device.offsetAddress? Register.batteryType.address 0 =
        some Register.batteryType.address := by
      decide
    rw [Device.readRegister, hsame]
    dsimp only
    rw [h]
    rfl
  show [0].mapM (Device.readRegister b none Register.batteryType.address) = .ok [4]
  rw [List.mapM_cons, hword]
  rfl

lemma currentBatteryType_of_faultless {result : Except SettingsFault BatteryType}
    (htype : HoldsUserDefined w.device) (h : Answered (Faultless ttl) w es w')
    (htells : Tells currentBatteryType es result) : result = .ok .userDefined := by
  have hnone := storeless_consults.currentBatteryType _ _ htells
  have hanswer {answer : Answer}
      (hmem : (⟨.send Register.batteryType.readRequest, answer⟩ : Line) ∈ es) :
      answer = .ok (Register.bytesOfWords [4]) := by
    rw [answer_of_answered h hnone hmem, readRegisters_batteryType htype]
    rfl
  rcases tells_bind.mp htells with ⟨fault, hread, -⟩ | ⟨first, data, second, rfl, hread, hrest⟩
  · rcases tells_readRegister.mp hread with ⟨_, -, hok⟩ | ⟨source, rfl, -⟩
    · cases hok
    · cases hanswer List.mem_cons_self
  · obtain rfl := tells_readRegister_ok.mp hread
    obtain rfl := Except.ok.inj (hanswer List.mem_cons_self)
    exact (tells_pure.mp hrest).2

/-- Where nothing fails, what comes after a look-up goes on with what the registers are read as. -/
lemma bind_cachedConfig_of_faultless {α : Type} {f : DeviceConfig → Procedure α} {c : DeviceConfig}
    {result : Except SettingsFault α} (hcache : Coherent w)
    (hconfig : Registers.config w.device = .ok c) (h : Answered (Faultless ttl) w es w')
    (htells : Tells (cachedConfig >>= f) es result) : ∃ rest, Tells (f c) rest result := by
  rcases tells_bind.mp htells with ⟨fault, hcached, -⟩ | ⟨first, c', second, rfl, hcached, hrest⟩
  · have hfault := cachedConfig_of_faultless hcache h hcached
    rw [hconfig] at hfault
    cases hfault
  · obtain ⟨_, hanswered, -⟩ := answered_append.mp h
    have hsame := cachedConfig_of_faultless hcache hanswered hcached
    rw [hconfig] at hsame
    obtain rfl := Except.ok.inj hsame
    exact ⟨second, hrest⟩

lemma checkProposal_of_faultless {c : DeviceConfig} {result : Except SettingsFault Unit}
    (hcache : Coherent w) (hconfig : Registers.config w.device = .ok c)
    (hpasses : p.Passes c.charging) (h : Answered (Faultless ttl) w es w')
    (htells : Tells (checkProposal p) es result) : result = .ok () := by
  obtain ⟨rest, hrest⟩ := bind_cachedConfig_of_faultless hcache hconfig h htells
  dsimp only at hrest
  rw [hpasses.1, hpasses.2] at hrest
  exact (tells_pure.mp hrest).2

lemma prepareCharging_of_faultless {c : DeviceConfig} {result : Except SettingsFault Unit}
    (htype : HoldsUserDefined w.device) (hcache : Coherent w)
    (hconfig : Registers.config w.device = .ok c) (hpasses : p.Passes c.charging)
    (h : Answered (Faultless ttl) w es w') (htells : Tells (prepareCharging p) es result) :
    result = .ok () := by
  rcases tells_bind.mp htells with ⟨fault, hasked, -⟩ | ⟨first, t, second, rfl, hasked, hrest⟩
  · cases currentBatteryType_of_faultless htype h hasked
  · obtain ⟨w₁, hanswered, hlater⟩ := answered_append.mp h
    obtain rfl := Except.ok.inj (currentBatteryType_of_faultless htype hanswered hasked)
    -- Asking for the type has changed nothing.
    obtain ⟨hcache₁, hdevice⟩ := hcache.quiet (fun hP => hP.currentBatteryType) hasked hanswered
    rw [← hdevice] at hconfig
    exact checkProposal_of_faultless hcache₁ hconfig hpasses hlater hrest

lemma writeAll_of_faultless {ws : List RegisterWrite} {result : Except SettingsFault Unit}
    (h : Answered (Faultless ttl) w es w') (htells : Tells (writeAll ws) es result) :
    result = .ok () := by
  induction ws generalizing w es with
  | nil => exact (tells_pure.mp htells).2
  | cons write rest ih =>
      rcases tells_bind.mp htells with ⟨fault, hwrite, -⟩ | ⟨first, _, second, rfl, -, hrest⟩
      · rcases tells_writeRegister.mp hwrite with ⟨_, -, -, hok⟩ | ⟨source, rfl, -⟩
        · cases hok
        · obtain ⟨_, hanswer⟩ := answers_of_sent h
          obtain ⟨data, hdata⟩ := hanswer.word_of_faultless
          cases hdata
      · obtain ⟨_, -, hlater⟩ := answered_append.mp h
        exact ih hlater hrest

lemma chargingParameters_of_faultless {c : DeviceConfig}
    {result : Except SettingsFault ChargingParameters} (hcache : Coherent w)
    (hconfig : Registers.config w.device = .ok c) (h : Answered (Faultless ttl) w es w')
    (htells : Tells chargingParameters es result) : result = .ok c.charging := by
  obtain ⟨rest, hrest⟩ := bind_cachedConfig_of_faultless hcache hconfig h htells
  exact (tells_pure.mp hrest).2

/-! ## Reading back -/

/-- An update that has come to reading back has left a coherent world. -/
lemma Stages.coherent_back {α : Type} {s : Stages α} {mayFail : Request → Prop}
    {front back : List Line} {result : Except SettingsFault (Confirmation α)}
    (hcache : Coherent w)
    (h : Answered (World.Replies (Registers.Answers mayFail) ttl) w front w')
    (hrefreshed : Refreshed (front ++ back)) (htells : Tells s.procedure (front ++ back) result)
    (hback : Tells (confirm s.what s.read) back result) : Coherent w' := by
  refine hcache.next h hrefreshed.begun fun hunsettled => ?_
  have hquiet := s.read_quiet.confirm s.what _ _ hback
  have hall : Unsettled (front ++ back) :=
    unsettled_append.mpr (.inr ⟨hunsettled, fun e he => Exchange.forgets_of_quiet (hquiet e he)⟩)
  obtain ⟨⟨fault, hfault⟩, -⟩ := settled htells hall
  rcases tells_confirm.mp hback with ⟨_, -, hok⟩ | ⟨_, -, hok⟩
  · rw [hfault] at hok
    cases hok
  · rw [hfault] at hok
    cases hok

/-- Where nothing fails, an update that passes the checks comes to reading back, with its words in
the registers and the cache coherent. -/
lemma updateCharging_comes_back {c : DeviceConfig}
    {result : Except SettingsFault (Confirmation ChargingParameters)}
    (htype : HoldsUserDefined w.device) (hcache : Coherent w)
    (hconfig : Registers.config w.device = .ok c) (hpasses : p.Passes c.charging)
    (h : Answered (Faultless ttl) w es w') (htells : Tells (updateCharging p) es result) :
    ∃ stored back w₁, Stored p.writes stored ∧ w₁.device = Registers.after w.device stored ∧
      Coherent w₁ ∧ Answered (Faultless ttl) w₁ back w' ∧
      Tells (confirm "parameters" chargingParameters) back result := by
  have hrefreshed := (Operation.updateCharging p).refreshed _ _ htells
  rw [updateCharging_eq] at htells
  rcases Stages.tells_staged.mp htells with ⟨fault, hprepare, -⟩ |
    ⟨prepared, stored, fault, rfl, hprepare, hstore, -⟩ |
    ⟨prepared, stored, back, rfl, hprepare, hstore, hback⟩
  · cases prepareCharging_of_faultless htype hcache hconfig hpasses h hprepare
  · obtain ⟨_, -, hlater⟩ := answered_append.mp h
    cases writeAll_of_faultless hlater hstore
  rw [← List.append_assoc stored, ← List.append_assoc prepared] at h htells hrefreshed
  obtain ⟨w₁, hfront, hlast⟩ := answered_append.mp h
  refine ⟨stored, back, w₁, tells_writeAll_ok.mp hstore, ?_,
    Stages.coherent_back hcache hfront hrefreshed htells hback, hlast, hback⟩
  -- Of all that came before, only the writes of the words have changed registers.
  have hnone := prepareCharging_always storeless_consults p _ _ hprepare
  rw [device_of_answered hfront, Registers.after_append, Registers.after_append,
    Registers.after_of_no_store hnone]
  refine Registers.after_of_no_store (fun e he => ?_) _
  rw [eq_forget_of_mem_forgetting he]
  rfl

/-- What it then returns is what the registers are read as. -/
lemma updateCharging_of_faultless {c : DeviceConfig}
    {result : Except SettingsFault (Confirmation ChargingParameters)}
    (hmapped : Registers.Mapped w.device) (htype : HoldsUserDefined w.device)
    (hcache : Coherent w) (hconfig : Registers.config w.device = .ok c)
    (hpasses : p.Passes c.charging) (h : Answered (Faultless ttl) w es w')
    (htells : Tells (updateCharging p) es result) :
    ∃ stored c', Stored p.writes stored ∧ w'.device = Registers.after w.device stored ∧
      Registers.config w'.device = .ok c' ∧ result = .ok (.confirmed c'.charging) := by
  obtain ⟨stored, back, w₁, hwrites, hdevice, hcache₁, hlast, hback⟩ :=
    updateCharging_comes_back htype hcache hconfig hpasses h htells
  have hnone := storeless_consults.chargingParameters.confirm _ _ _ hback
  have hsame : w'.device = w₁.device := device_of_no_store hlast hnone
  obtain ⟨c', hconfig'⟩ := config_of_mapped (hmapped.after hwrites)
  rw [← hdevice] at hconfig'
  refine ⟨stored, c', hwrites, hsame.trans hdevice, by rw [hsame, hconfig'], ?_⟩
  rcases tells_confirm.mp hback with ⟨params, hread, rfl⟩ | ⟨fault, hread, rfl⟩
  · rw [Except.ok.inj (chargingParameters_of_faultless hcache₁ hconfig' hlast hread)]
  · cases chargingParameters_of_faultless hcache₁ hconfig' hlast hread

/-- **An update reads back what it has written**, where no request fails. -/
theorem update_reads_back (ttl : Nat) (w : World Bank) (p : ChargingUpdate)
    (hmapped : Registers.Mapped w.device)
    (htype : w.device Register.batteryType.address = some 4) (hcache : Coherent w) :
    ∃ c, Registers.config w.device = .ok c ∧ (p.Passes c.charging →
      (∃ es result w', Tells (updateCharging p) es result ∧ Answered (Faultless ttl) w es w') ∧
      ∀ es result w', Tells (updateCharging p) es result → Answered (Faultless ttl) w es w' →
        result = .ok (.confirmed (p.asStored.onto c.charging)) ∧
        (∀ a, ¬ p.Names a → w'.device a = w.device a) ∧
        (p = .whole c.charging → w'.device = w.device)) := by
  obtain ⟨c, hconfig⟩ := config_of_mapped hmapped
  refine ⟨c, hconfig, fun hpasses => ⟨?_, ?_⟩⟩
  · obtain ⟨hends, hanswered⟩ := play_ends (World.serve_all ttl) w (updateCharging p).run
    exact ⟨_, _, _, hends, hanswered⟩
  intro es result w' htells h
  obtain ⟨stored, c', hwrites, hdevice, hconfig', rfl⟩ :=
    updateCharging_of_faultless hmapped htype hcache hconfig hpasses h htells
  have hholds := config_holds hconfig
  have hholds' := config_holds hconfig'
  refine ⟨?_, ?_, ?_⟩
  · rw [hholds.merge hholds' fun s => by rw [hdevice, after_word hwrites]]
  · intro a ha
    rw [hdevice, after_unnamed hwrites _ ha]
  · rintro rfl
    rw [hdevice, hholds.after_whole hwrites]

/-- A longer boost, a float voltage that is no whole number of hundredths, and a lower limit for the
battery. -/
def gentler : ChargingUpdate where
  period x := if x = .boost then some 150 else none
  threshold x := if x = .float then some (Binary.ofNat 2741 / Binary.ofNat 200) else none
  limit x := if x = .batteryLower then some (Binary.ofInt (-12)) else none

/-- The float voltage is read back as the nearest hundredths. -/
theorem gentler_reads_back :
    Registers.Mapped World.sample.device ∧
      World.sample.device Register.batteryType.address = some 4 ∧ Coherent World.sample ∧
      ∃ c es w', Registers.config World.sample.device = .ok c ∧ gentler.Passes c.charging ∧
        Tells (updateCharging gentler) es
          (.ok (.confirmed (gentler.asStored.onto c.charging))) ∧
        Answered (Faultless 60000) World.sample es w' ∧
        (gentler.asStored.onto c.charging).threshold .float = Register.scaled 1371 ∧
        ∀ a, ¬ gentler.Names a → w'.device a = World.sample.device a := by
  have hmapped : Registers.Mapped World.sample.device := by decide +kernel
  have hcache : Coherent World.sample := coherent_of_empty rfl
  refine ⟨hmapped, rfl, hcache, ?_⟩
  obtain ⟨c, hconfig, hreads⟩ := update_reads_back 60000 World.sample gentler hmapped rfl hcache
  have hchecks : (Registers.config World.sample.device).toOption.map
      (fun c => decide (gentler.Passes c.charging)) = some true := by
    decide +kernel
  rw [hconfig] at hchecks
  have hpasses : gentler.Passes c.charging := of_decide_eq_true (Option.some.inj hchecks)
  obtain ⟨⟨es, result, w', htells, hanswered⟩, hall⟩ := hreads hpasses
  obtain ⟨rfl, hrest, -⟩ := hall es result w' htells hanswered
  have hfloat : Register.ofVolts (Binary.ofNat 2741 / Binary.ofNat 200) = 1371 := by
    decide +kernel
  refine ⟨c, es, w', hconfig, hpasses, htells, hanswered, ?_, hrest⟩
  show Register.scaled (Register.ofVolts (Binary.ofNat 2741 / Binary.ofNat 200)) = _
  rw [hfloat]

end Settings

end ChargeController
