import ChargeController.Proofs.Settings.Discipline
import ChargeController.Proofs.Settings.ReadBack
import ChargeController.Proofs.Settings.Thresholds

/-!
# Updating once more

Writes are laid over the registers: those that have been written keep what was written, whatever
they held before, and the others stay as they are.  So the same writes once more change nothing; and
an update that has gone through finds, when it is repeated, the registers that it would have left,
on top of which it is in order as it was before.

* `Registers.Overlays` — a change that does not depend on what it changes.
* `ConfigUpdate.Admitted` — what registers have to say to an update for it to go through.
* **`updateConfig_of_faultless`** — where no request fails, nothing else can stop it.
* **`repeated_update_harmless`** — an update that has gone through goes through again, and changes
  nothing.
-/

namespace ChargeController

open Settings Dialogue

namespace Settings

/-! ## Laid over the registers -/

namespace Registers

/-- A change of registers that gives some of them words, always the same, and leaves the others. -/
def Overlays (f : Bank → Bank) : Prop :=
  ∃ words : Bank, ∀ b a, f b a = (words a).or (b a)

namespace Overlays

variable {f g : Bank → Bank}

lemma id : Overlays fun b => b :=
  ⟨fun _ => none, fun _ _ => Option.none_or.symm⟩

lemma comp (hg : Overlays g) (hf : Overlays f) : Overlays fun b => g (f b) := by
  obtain ⟨later, hg⟩ := hg
  obtain ⟨words, hf⟩ := hf
  refine ⟨fun a => (later a).or (words a), fun b a => ?_⟩
  dsimp only
  rw [hg, hf, Option.or_assoc]

lemma put (address value : UInt16) : Overlays fun b => Device.put b address (some value) := by
  refine ⟨Device.put (fun _ => none) address (some value), fun b a => ?_⟩
  dsimp only
  by_cases ha : a = address
  · rw [ha, Device.put_same, Device.put_same, Option.some_or]
  · rw [Device.put_of_ne ha, Device.put_of_ne ha, Option.none_or]

lemma writeRow (address : UInt16) (offset : Nat) (words : List UInt16) :
    Overlays fun b => (Device.writeRow b address offset words).1 := by
  induction words generalizing offset with
  | nil => exact .id
  | cons w rest ih =>
      simp only [Device.writeRow]
      split
      · exact .id
      · next a _ => exact (ih (offset + 1)).comp (.put a w)

lemma written (r : Request) : Overlays fun b => written b r := by
  cases r with
  | read t a q => exact .id
  | writeWord address value => exact .put address value
  | writeWords address words => exact .writeRow address 0 words

/-- **What is laid over registers once more changes nothing.** -/
theorem twice (hf : Overlays f) (b : Bank) : f (f b) = f b := by
  obtain ⟨words, hf⟩ := hf
  funext a
  rw [hf, hf, ← Option.or_assoc, Option.or_self]

lemma mapped (hf : Overlays f) {b : Bank} (h : Mapped b) : Mapped (f b) := by
  obtain ⟨words, hf⟩ := hf
  intro block i hi
  obtain ⟨a, word, ha, hword⟩ := h block i hi
  refine ⟨a, (words a).getD word, ha, ?_⟩
  rw [hf, hword]
  cases words a with
  | none => rfl
  | some new => rfl

end Overlays

/-- What accepted requests leave in the registers, one after the other. -/
def performed (rs : List Request) (b : Bank) : Bank :=
  rs.foldl written b

lemma overlays_performed (rs : List Request) : Overlays (performed rs) := by
  induction rs with
  | nil => exact .id
  | cons r rest ih => exact ih.comp (.written r)

lemma performed_of_not_reached {rs : List Request} {a : UInt16} (h : ∀ r ∈ rs, ¬ Reaches a r)
    (b : Bank) : performed rs b a = b a := by
  induction rs generalizing b with
  | nil => rfl
  | cons r rest ih =>
      show performed rest (written b r) a = b a
      rw [ih fun r' hr' => h r' (List.mem_cons_of_mem _ hr')]
      exact written_of_not_reached (h r List.mem_cons_self) b

/-- Where every write was accepted, the registers have what was issued. -/
lemma after_eq_performed {es : List Line} (h : ∀ i ∈ issued es, i.2.isOk = true) (b : Bank) :
    after b es = performed ((issued es).map Prod.fst) b := by
  induction es generalizing b with
  | nil => rfl
  | cons e es ih =>
      show after (afterLine b e) es = _
      obtain ⟨q, answer⟩ := e
      cases q with
      | send r =>
          cases hwrite : r.isWrite with
          | false =>
              have hread : issued (⟨.send r, answer⟩ :: es) = issued es :=
                List.filterMap_cons_none (if_neg (by rw [hwrite]; exact Bool.false_ne_true))
              rw [hread] at h ⊢
              rw [ih h, afterLine_of_no_store]
              cases answer with
              | ok data => exact hwrite
              | error source => rfl
          | true =>
              have hissued : issued (⟨.send r, answer⟩ :: es) = (r, answer) :: issued es :=
                List.filterMap_cons_some (if_pos hwrite)
              rw [hissued] at h ⊢
              obtain ⟨hok, hrest⟩ := List.forall_mem_cons.mp h
              rw [ih hrest]
              cases answer with
              | ok data => rfl
              | error source => cases hok
      | _ => exact ih h b

/-- Charging parameters that registers hold depend on the registers of their settings only. -/
lemma Holds.congr {b b' : Bank} {base : ChargingParameters} (h : Holds b base)
    (hsame : ∀ s : Setting, b' s.register.address = b s.register.address) : Holds b' base where
  period x := (hsame (.period x)).trans (h.period x)
  threshold x := by
    rw [show b' x.register.address = b x.register.address from hsame (.threshold x)]
    exact h.threshold x
  limit x := by
    rw [show b' x.register.address = b x.register.address from hsame (.limit x)]
    exact h.limit x

/-- The same register is read as the same value. -/
lemma value_eq {decode : UInt16 → Single} {b b' : Bank} {a : UInt16} {value value' : Single}
    (h : ∃ word, b a = some word ∧ value = decode word)
    (h' : ∃ word, b' a = some word ∧ value' = decode word) (hsame : b' a = b a) :
    value' = value := by
  obtain ⟨word, hword, rfl⟩ := h
  obtain ⟨word', hword', rfl⟩ := h'
  rw [hword, hword'] at hsame
  rw [Option.some.inj hsame]

/-- **An update comes to the same on top of registers** that differ in its own settings only. -/
theorem Holds.onto_eq {b b' : Bank} {base base' : ChargingParameters} {p : ChargingUpdate}
    (h : Holds b base) (h' : Holds b' base')
    (hsame : ∀ s : Setting, p.word s = none → b' s.register.address = b s.register.address) :
    p.onto base' = p.onto base := by
  have hperiod : (p.onto base').period = (p.onto base).period := by
    funext x
    show (p.period x).getD (base'.period x) = (p.period x).getD (base.period x)
    cases hx : p.period x with
    | some n => rfl
    | none =>
        have heq : b' x.register.address = b x.register.address := hsame (.period x) hx
        rw [h.period, h'.period] at heq
        exact Option.some.inj heq
  have hthreshold : (p.onto base').threshold = (p.onto base).threshold := by
    funext x
    show (p.threshold x).getD (base'.threshold x) = (p.threshold x).getD (base.threshold x)
    cases hx : p.threshold x with
    | some volts => rfl
    | none =>
        have hword : p.word (.threshold x) = none := by rw [ChargingUpdate.word, hx]; rfl
        exact value_eq (h.threshold x) (h'.threshold x) (hsame (.threshold x) hword)
  have hlimit : (p.onto base').limit = (p.onto base).limit := by
    funext x
    show (p.limit x).getD (base'.limit x) = (p.limit x).getD (base.limit x)
    cases hx : p.limit x with
    | some celsius => rfl
    | none =>
        have hword : p.word (.limit x) = none := by rw [ChargingUpdate.word, hx]; rfl
        exact value_eq (h.limit x) (h'.limit x) (hsame (.limit x) hword)
  show ChargingParameters.mk (p.onto base').period (p.onto base').threshold (p.onto base').limit =
    p.onto base
  rw [hperiod, hthreshold, hlimit]

end Registers

/-! ## What an update asks of the registers -/

/-- What there must be to an update, and what the registers must say to it, for it to go through: a
battery type that can be written, a temperature compensation in its range, a moment that the clock
can hold; and for charging parameters the user-defined battery type, which may come with the update,
and parameters on top of which they are in order. -/
structure ConfigUpdate.Admitted (p : ConfigUpdate) (b : Bank) : Prop where
  known : p.batteryType ≠ some .unknown
  tempComp : ∀ x, p.tempCompCoefficient = some x → checkTempComp x = .ok ()
  encodes : ∀ t, p.time = some t → Encodes t
  gate : p.touchesCharging = true →
    p.batteryType = some .userDefined ∨ (p.batteryType = none ∧ HoldsUserDefined b)
  passes : p.touchesCharging = true →
    ∃ base, Registers.Holds b base ∧ p.charging.Passes base

variable {p : ConfigUpdate} {ttl : Nat} {w w' : World Bank} {es : List Line}

/-- An update that is admitted stays so, if registers change in what it writes itself. -/
lemma ConfigUpdate.Admitted.later {b b' : Bank} (h : ConfigUpdate.Admitted p b)
    (hholds : ∃ base, Registers.Holds b' base)
    (htype : p.batteryType = none →
      b' Register.batteryType.address = b Register.batteryType.address)
    (hsame : ∀ s : Setting, p.charging.word s = none →
      b' s.register.address = b s.register.address) : ConfigUpdate.Admitted p b' where
  known := h.known
  tempComp := h.tempComp
  encodes := h.encodes
  gate htouches := by
    rcases h.gate htouches with hpresent | ⟨habsent, hholds⟩
    · exact .inl hpresent
    · exact .inr ⟨habsent, (htype habsent).trans hholds⟩
  passes htouches := by
    obtain ⟨base, hbase, hpasses⟩ := h.passes htouches
    obtain ⟨base', hbase'⟩ := hholds
    refine ⟨base', hbase', ?_⟩
    rwa [ChargingUpdate.Passes, hbase.onto_eq hbase' hsame]

/-! ## Where nothing fails -/

/-- Where nothing fails, the battery type is stored, unless it is the unknown one. -/
lemma updateBatteryType_of_faultless {result : Except SettingsFault Unit}
    (hknown : p.batteryType ≠ some .unknown) (h : Answered (Faultless ttl) w es w')
    (htells : Tells (updateBatteryType p) es result) : result = .ok () := by
  rcases tells_updateBatteryType htells with ⟨-, -, rfl⟩ | ⟨_, _, _, -, -, -, -, rfl⟩ |
    ⟨t, fault, ht, hstore, -⟩
  · rfl
  · rfl
  rcases tells_storeBatteryType hstore with ⟨_, _, -, -, -, hok⟩ | ⟨code, source, -, rfl, -⟩ |
    ⟨hcode, -, -⟩
  · cases hok
  · obtain ⟨_, hanswer⟩ := answers_of_sent h
    obtain ⟨data, hdata⟩ := hanswer.word_of_faultless
    cases hdata
  · rw [code?_eq_none.mp hcode] at ht
    exact absurd ht hknown

/-- The clock's registers do not run past the last address. -/
lemma fits_clock {r : Request} (hr : ClockRequest r) (b : Bank) : Registers.Fits b r := by
  obtain ⟨words, hlength, rfl⟩ := hr
  match words, hlength with
  | [first, second, third], _ =>
      have hfirst : Device.offsetAddress? Register.deviceClock.address 0 = some 0x9013 := by decide
      have hsecond : Device.offsetAddress? Register.deviceClock.address 1 = some 0x9014 := by decide
      have hthird : Device.offsetAddress? Register.deviceClock.address 2 = some 0x9015 := by decide
      simp only [Registers.Fits, Device.writeRow, hfirst, hsecond, hthird, Nat.zero_add,
        Nat.reduceAdd]

lemma Registers.Answers.clock_of_faultless {b b' : Bank} {r : Request} {answer : Answer}
    (hr : ClockRequest r) (h : Answers (fun _ => False) b r answer b') :
    ∃ data, answer = .ok data := by
  have hfits := fits_clock hr b
  obtain ⟨words, -, rfl⟩ := hr
  cases h with
  | fail allowed => exact absurd allowed id
  | accept _ _ => exact ⟨_, rfl⟩
  | overflow _ full => exact absurd hfits full

lemma storeClock_of_faultless {t : DateTime} {result : Except SettingsFault Unit}
    (hencodes : Encodes t) (h : Answered (Faultless ttl) w es w')
    (htells : Tells (storeClock t) es result) : result = .ok () := by
  rcases tells_storeClock htells with ⟨_, _, -, -, rfl⟩ | ⟨r, source, hr, rfl, -⟩ |
    ⟨_, hnone, -, -⟩
  · rfl
  · obtain ⟨_, hanswer⟩ := answers_of_sent h
    obtain ⟨data, hdata⟩ := hanswer.clock_of_faultless (clockRequest_of_eq_some hr)
    cases hdata
  · rw [← clockRequest?_isSome, hnone] at hencodes
    cases hencodes

lemma storeConfig_of_faultless {result : Except SettingsFault Unit}
    (hencodes : ∀ t, p.time = some t → Encodes t) (h : Answered (Faultless ttl) w es w')
    (htells : Tells (storeConfig p) es result) : result = .ok () := by
  rcases tells_bind.mp htells with ⟨fault, hwords, -⟩ | ⟨first, _, second, rfl, -, hclock⟩
  · cases writeAll_of_faultless h hwords
  · obtain ⟨_, -, hlater⟩ := answered_append.mp h
    cases ht : p.time with
    | none =>
        rw [ht] at hclock
        exact (tells_pure.mp hclock).2
    | some t => exact storeClock_of_faultless (hencodes t ht) hlater (tells_of_present hclock ht)

/-- What a configuration update does about the battery type leaves the other registers. -/
lemma device_of_typed {mayFail : Request → Prop} {u : Unit}
    (h : Answered (World.Replies (Registers.Answers mayFail) ttl) w es w')
    (htells : Tells (updateBatteryType p) es (.ok u)) :
    (p.batteryType = none ∧ w' = w) ∨ ∃ t code, p.batteryType = some t ∧ t.code? = some code ∧
      w'.device = Device.put w.device Register.batteryType.address (some code) := by
  rcases tells_updateBatteryType htells with ⟨hnone, rfl, -⟩ |
    ⟨t, code, e, ht, hcode, ⟨data, rfl⟩, rfl, -⟩ | ⟨_, _, -, -, hok⟩
  · exact .inl ⟨hnone, answered_nil.mp h⟩
  · exact .inr ⟨t, code, ht, hcode, device_of_answered h⟩
  · cases hok

lemma setting_of_typed {mayFail : Request → Prop} {u : Unit}
    (h : Answered (World.Replies (Registers.Answers mayFail) ttl) w es w')
    (htells : Tells (updateBatteryType p) es (.ok u)) (s : Setting) :
    w'.device s.register.address = w.device s.register.address := by
  rcases device_of_typed h htells with ⟨-, rfl⟩ | ⟨_, _, -, -, hdevice⟩
  · rfl
  · rw [hdevice]
    exact Device.put_of_ne (apart_setting List.mem_cons_self s).1.symm

/-- An update stays admitted when its battery type has been stored. -/
lemma ConfigUpdate.Admitted.typed {mayFail : Request → Prop} {u : Unit}
    (hadmitted : ConfigUpdate.Admitted p w.device) (hmapped : Registers.Mapped w.device)
    (h : Answered (World.Replies (Registers.Answers mayFail) ttl) w es w')
    (htells : Tells (updateBatteryType p) es (.ok u)) :
    Registers.Mapped w'.device ∧ ConfigUpdate.Admitted p w'.device := by
  rcases device_of_typed h htells with ⟨-, rfl⟩ | ⟨t, code, ht, -, hdevice⟩
  · exact ⟨hmapped, hadmitted⟩
  · have hmapped' : Registers.Mapped w'.device := by
      rw [hdevice]
      exact (Registers.Overlays.put _ _).mapped hmapped
    obtain ⟨c, hconfig⟩ := config_of_mapped hmapped'
    refine ⟨hmapped', hadmitted.later ⟨c.charging, config_holds hconfig⟩ (fun habsent => ?_)
      fun s _ => setting_of_typed h htells s⟩
    rw [habsent] at ht
    cases ht

lemma checkCharging_of_faultless {result : Except SettingsFault Unit} (hcache : Coherent w)
    (hmapped : Registers.Mapped w.device) (hadmitted : ConfigUpdate.Admitted p w.device)
    (h : Answered (Faultless ttl) w es w') (htells : Tells (checkCharging p) es result) :
    result = .ok () := by
  simp only [checkCharging] at htells
  split at htells
  swap
  · exact (tells_pure.mp htells).2
  next htouches =>
  obtain ⟨c, hconfig⟩ := config_of_mapped hmapped
  obtain ⟨base, hbase, hpasses⟩ := hadmitted.passes htouches
  have hpasses : p.charging.Passes c.charging := by
    rwa [ChargingUpdate.Passes, hbase.onto_eq (config_holds hconfig) fun _ _ => rfl]
  rcases hadmitted.gate htouches with hpresent | ⟨habsent, htype⟩
  · rw [hpresent] at htells
    exact checkProposal_of_faultless hcache hconfig hpasses h htells
  · rw [habsent] at htells
    exact prepareCharging_of_faultless htype hcache hconfig hpasses h htells

lemma prepareConfig_of_faultless {result : Except SettingsFault Unit} (hcache : Coherent w)
    (hmapped : Registers.Mapped w.device) (hadmitted : ConfigUpdate.Admitted p w.device)
    (h : Answered (Faultless ttl) w es w') (htells : Tells (prepareConfig p) es result) :
    result = .ok () := by
  have htempComp {es : List Line} {result : Except SettingsFault Unit} (htells : Tells
      (whenPresent p.tempCompCoefficient fun x => allowed (checkTempComp x)) es result) :
      result = .ok () := by
    cases hx : p.tempCompCoefficient with
    | none =>
        rw [hx] at htells
        exact (tells_pure.mp htells).2
    | some x =>
        have hallowed := tells_of_present htells hx
        rw [hadmitted.tempComp x hx] at hallowed
        exact (tells_pure.mp hallowed).2
  rcases tells_bind.mp htells with ⟨fault, hcheck, -⟩ | ⟨first, _, rest, rfl, hfirst, hrest⟩
  · cases htempComp hcheck
  obtain rfl := silent_whenPresent (fun _ => silent_allowed _) _ _ hfirst
  rw [List.nil_append] at h
  rcases tells_bind.mp hrest with ⟨fault, htyped, -⟩ | ⟨typed, _, checked, rfl, htyped, hchecked⟩
  · cases updateBatteryType_of_faultless hadmitted.known h htyped
  · obtain ⟨w₁, hanswered, hlater⟩ := answered_append.mp h
    have hrefreshed := updateBatteryType_always refreshed_allows trivial p _ _ htyped
    have hcache₁ := hcache.next hanswered hrefreshed (updateBatteryType_settled p _ _ htyped)
    obtain ⟨hmapped₁, hadmitted₁⟩ := hadmitted.typed hmapped hanswered htyped
    exact checkCharging_of_faultless hcache₁ hmapped₁ hadmitted₁ hlater hchecked

/-! ## Going through -/

/-- The requests that a configuration update writes. -/
def ConfigUpdate.requests (p : ConfigUpdate) : List Request :=
  (Operation.updateConfig p).plan.filterMap (·.request)

lemma Accomplished.map_fst {plan : List PlannedWrite} {is : List (Request × Answer)}
    (h : Accomplished plan is) : is.map Prod.fst = plan.filterMap (·.request) := by
  induction h with
  | nil => rfl
  | cons hw _ ih =>
      obtain ⟨r, data, hrequest, rfl⟩ := hw
      rw [List.map_cons, ih, List.filterMap_cons_some hrequest]

/-- **What has gone through has left its requests in the registers**, and nothing else. -/
lemma device_of_ok {mayFail : Request → Prop} {v : Confirmation DeviceConfig}
    (h : Answered (World.Replies (Registers.Answers mayFail) ttl) w es w')
    (htells : Tells (updateConfig p) es (.ok v)) :
    w'.device = Registers.performed (ConfigUpdate.requests p) w.device := by
  have hdisciplined : Disciplined (Operation.updateConfig p).plan es (.ok v) :=
    Operation.disciplined htells
  have hwhole := hdisciplined.whole rfl
  rw [device_of_answered h, Registers.after_eq_performed hwhole.isOk, hwhole.map_fst]
  rfl

/-- What the checks have let through is in order on top of what the registers hold. -/
lemma passes_of_checked {mayFail : Request → Prop} {u : Unit} (hcache : Coherent w)
    (h : Answered (World.Replies (Registers.Answers mayFail) ttl) w es w')
    (htells : Tells (checkCharging p) es (.ok u)) (htouches : p.touchesCharging = true) :
    (p.batteryType = some .userDefined ∨ (p.batteryType = none ∧ HoldsUserDefined w.device)) ∧
      ∃ base, Registers.Holds w.device base ∧ p.charging.Passes base := by
  obtain ⟨asked, proposal, rfl, hproposal, hasked⟩ := tells_checkCharging_ok htells htouches
  obtain ⟨w₁, haskedAnswered, hlater⟩ := answered_append.mp h
  obtain ⟨c, hlook, hranges, horder⟩ := tells_checkProposal_ok hproposal
  have hpasses (hcache₁ : Coherent w₁) (hsame : w₁.device = w.device) :
      ∃ base, Registers.Holds w.device base ∧ p.charging.Passes base := by
    rw [← hsame]
    exact ⟨c.charging, config_holds (hcache₁.cached hlater hlook), hranges, horder⟩
  rcases hasked with ⟨hpresent, rfl⟩ | ⟨habsent, hasked⟩
  · obtain rfl := answered_nil.mp haskedAnswered
    exact ⟨.inl hpresent, hpasses hcache rfl⟩
  · obtain ⟨hcache₁, hsame⟩ :=
      hcache.quiet (fun hP => hP.currentBatteryType) hasked haskedAnswered
    exact ⟨.inr ⟨habsent, holds_of_currentBatteryType haskedAnswered hasked⟩,
      hpasses hcache₁ hsame⟩

/-- **An update that has gone through was admitted.** -/
theorem admitted_of_ok {mayFail : Request → Prop} {v : Confirmation DeviceConfig}
    (hcache : Coherent w) (h : Answered (World.Replies (Registers.Answers mayFail) ttl) w es w')
    (htells : Tells (updateConfig p) es (.ok v)) : ConfigUpdate.Admitted p w.device := by
  rw [updateConfig_eq] at htells
  rcases Stages.tells_staged.mp htells with ⟨_, -, hok⟩ | ⟨_, _, _, -, -, -, hok⟩ |
    ⟨prepared, stored, back, rfl, hprepare, hstore, -⟩
  · cases hok
  · cases hok
  obtain ⟨first, _, rest, rfl, hfirst, hrest⟩ := tells_bind_ok.mp hprepare
  obtain ⟨typed, _, checked, rfl, htyped, hchecked⟩ := tells_bind_ok.mp hrest
  obtain rfl := silent_whenPresent (fun _ => silent_allowed _) _ _ hfirst
  obtain ⟨_, hprepared, -⟩ := answered_append.mp h
  rw [List.nil_append] at hprepared
  obtain ⟨w₁, hanswered, hlater⟩ := answered_append.mp hprepared
  have hrefreshed := updateBatteryType_always refreshed_allows trivial p _ _ htyped
  have hcache₁ := hcache.next hanswered hrefreshed (updateBatteryType_settled p _ _ htyped)
  have htype := device_of_typed hanswered htyped
  refine ⟨?_, fun x hx => ?_, fun t ht => ?_, fun htouches => ?_, fun htouches => ?_⟩
  · rintro hunknown
    rcases htype with ⟨hnone, -⟩ | ⟨t, code, ht, hcode, -⟩
    · rw [hunknown] at hnone
      cases hnone
    · obtain rfl := Option.some.inj (hunknown.symm.trans ht)
      cases hcode
  · exact (tells_allowed_ok.mp (tells_of_present hfirst hx)).2
  · obtain ⟨_, _, clock, -, -, hclock⟩ := tells_bind_ok.mp hstore
    rcases tells_storeClock (tells_of_present hclock ht) with ⟨r, _, hr, -, -⟩ |
      ⟨_, _, -, -, hok⟩ | ⟨_, -, -, hok⟩
    · rw [← clockRequest?_isSome, hr]
      rfl
    · cases hok
    · cases hok
  · rcases (passes_of_checked hcache₁ hlater hchecked htouches).1 with hpresent | ⟨habsent, hholds⟩
    · exact .inl hpresent
    · rcases htype with ⟨-, rfl⟩ | ⟨t, _, ht, -, -⟩
      · exact .inr ⟨habsent, hholds⟩
      · rw [habsent] at ht
        cases ht
  · obtain ⟨base, hholds, hpasses⟩ := (passes_of_checked hcache₁ hlater hchecked htouches).2
    refine ⟨base, hholds.congr fun s => ?_, hpasses⟩
    exact (setting_of_typed hanswered htyped s).symm

/-- **Where no request fails, an update that is admitted goes through**, and confirms what it leaves
in the registers. -/
theorem updateConfig_of_faultless {result : Except SettingsFault (Confirmation DeviceConfig)}
    (hcache : Coherent w) (hmapped : Registers.Mapped w.device)
    (hadmitted : ConfigUpdate.Admitted p w.device) (h : Answered (Faultless ttl) w es w')
    (htells : Tells (updateConfig p) es result) :
    ∃ c, Registers.config w'.device = .ok c ∧ result = .ok (.confirmed c) ∧ Coherent w' ∧
      w'.device = Registers.performed (ConfigUpdate.requests p) w.device := by
  have hrefreshed := (Operation.updateConfig p).refreshed _ _ htells
  have hstaged := htells
  rw [updateConfig_eq] at hstaged
  rcases Stages.tells_staged.mp hstaged with ⟨fault, hprepare, -⟩ |
    ⟨prepared, stored, fault, rfl, hprepare, hstore, -⟩ |
    ⟨prepared, stored, back, rfl, hprepare, hstore, hback⟩
  · cases prepareConfig_of_faultless hcache hmapped hadmitted h hprepare
  · obtain ⟨_, -, hlater⟩ := answered_append.mp h
    cases storeConfig_of_faultless hadmitted.encodes hlater hstore
  rw [← List.append_assoc stored, ← List.append_assoc prepared] at h htells hrefreshed hstaged
  obtain ⟨w₁, hfront, hlast⟩ := answered_append.mp h
  have hcache₁ : Coherent w₁ := Stages.coherent_back hcache hfront hrefreshed hstaged hback
  obtain ⟨hcache', hsame⟩ := hcache₁.quiet (fun hP => hP.cached.confirm _) hback hlast
  have hdevice (v : Confirmation DeviceConfig) (hok : result = .ok v) :
      w'.device = Registers.performed (ConfigUpdate.requests p) w.device := by
    rw [hok] at htells
    exact device_of_ok h htells
  have hconfirmed (v : Confirmation DeviceConfig) (hok : result = .ok v) :
      ∃ c, Registers.config w'.device = .ok c := by
    refine config_of_mapped ?_
    rw [hdevice v hok]
    exact (Registers.overlays_performed _).mapped hmapped
  rcases tells_confirm.mp hback with ⟨c, hread, hok⟩ | ⟨fault, hread, hok⟩
  · obtain ⟨c', hconfig⟩ := hconfirmed _ hok
    have hsame' := cachedConfig_of_faultless hcache₁ hlast hread
    rw [← hsame] at hsame'
    exact ⟨c, hsame', hok, hcache', hdevice _ hok⟩
  · obtain ⟨c', hconfig⟩ := hconfirmed _ hok
    rw [hsame, cachedConfig_of_faultless hcache₁ hlast hread] at hconfig
    cases hconfig

/-! ## Once more -/

/-- What a configuration update writes reaches no register but its own. -/
lemma not_reached_of_requests {a : UInt16}
    (htype : p.batteryType = none ∨ Registers.Apart a Register.batteryType)
    (hwords : ∀ w ∈ updateWrites p, w.register.address ≠ a)
    (hclock : Registers.Apart a Register.deviceClock) :
    ∀ r ∈ ConfigUpdate.requests p, ¬ Registers.Reaches a r := by
  intro r hr
  obtain ⟨w, hw, hrequest⟩ := List.mem_filterMap.mp hr
  simp only [updateConfig_plan, List.mem_append, Option.mem_toList, Option.map_eq_some_iff,
    List.mem_map] at hw
  rcases hw with ⟨t, ht, rfl⟩ | ⟨word, hword, rfl⟩ | ⟨t, -, rfl⟩
  · obtain ⟨code, -, rfl⟩ := Option.map_eq_some_iff.mp hrequest
    rcases htype with habsent | hapart
    · rw [habsent] at ht
      cases ht
    · exact hapart.1
  · obtain rfl := Option.some.inj hrequest
    exact hwords word hword
  · obtain ⟨words, hlength, rfl⟩ := clockRequest_of_eq_some hrequest
    rintro ⟨i, hi, hreached⟩
    exact hclock.2 i (by rwa [hlength] at hi) hreached

/-- The register of a setting that an update does not have is none that it writes. -/
lemma updateWrites_ne {s : Setting} (hs : p.charging.word s = none) :
    ∀ w ∈ updateWrites p, w.register.address ≠ s.register.address := by
  intro w hw
  simp only [updateWrites, List.mem_append, Option.mem_toList, Option.map_eq_some_iff] at hw
  rcases hw with (⟨capacity, -, rfl⟩ | ⟨coefficient, -, rfl⟩) | hw
  · exact (apart_setting (by simp [ChargingUpdate.otherRegisters, RegisterWrite.ofCapacity]) s).1
  · exact (apart_setting (by simp [ChargingUpdate.otherRegisters, RegisterWrite.ofTempComp]) s).1
  · obtain ⟨s', hregister, hword⟩ := ChargingUpdate.mem_writes.mp hw
    intro haddress
    rw [← hregister] at haddress
    rw [Setting.ext_address haddress, hs] at hword
    cases hword

/-- **An update that has gone through is admitted once more.** -/
theorem ConfigUpdate.Admitted.again {b : Bank} (h : ConfigUpdate.Admitted p b)
    (hmapped : Registers.Mapped b) :
    ConfigUpdate.Admitted p (Registers.performed (ConfigUpdate.requests p) b) := by
  obtain ⟨c, hconfig⟩ :=
    config_of_mapped ((Registers.overlays_performed (ConfigUpdate.requests p)).mapped hmapped)
  refine h.later ⟨c.charging, config_holds hconfig⟩ (fun habsent => ?_) fun s hs => ?_
  · refine Registers.performed_of_not_reached (not_reached_of_requests (.inl habsent) ?_ ?_) b
    · intro w hw
      have hregister := (updateWrites_sublist p).subset (List.mem_map_of_mem hw)
      exact (apart_batteryType (List.mem_cons_of_mem _ hregister)).1
    · exact apart_batteryType List.mem_cons_self
  · refine Registers.performed_of_not_reached (not_reached_of_requests (.inr ?_)
      (updateWrites_ne hs) ?_) b
    · exact apart_setting List.mem_cons_self s
    · exact apart_setting (by simp [ChargingUpdate.otherRegisters]) s

/-- **A repeated update is harmless.**  Where no request fails and all registers of the
configuration have words, and with a cache that is empty or says what the registers hold: whenever
an update of the configuration has gone through, it has confirmed a configuration, and the same
update goes through right after it, confirms the same configuration, and leaves every register as
the first one has left it. -/
theorem repeated_update_harmless (ttl : Nat) (w w₁ : World Bank) (p : ConfigUpdate)
    (es : List Line) (v : Confirmation DeviceConfig) (hmapped : Registers.Mapped w.device)
    (hcache : Coherent w) (htells : Tells (updateConfig p) es (.ok v))
    (h : Answered (Faultless ttl) w es w₁) :
    ∃ c, v = .confirmed c ∧
      (∃ es' result w₂, Tells (updateConfig p) es' result ∧ Answered (Faultless ttl) w₁ es' w₂) ∧
      ∀ es' result w₂, Tells (updateConfig p) es' result → Answered (Faultless ttl) w₁ es' w₂ →
        result = .ok (.confirmed c) ∧ w₂.device = w₁.device := by
  have hadmitted := admitted_of_ok hcache h htells
  obtain ⟨c, hconfig, hok, hcache₁, hdevice⟩ :=
    updateConfig_of_faultless hcache hmapped hadmitted h htells
  refine ⟨c, Except.ok.inj hok, ?_, fun es' result w₂ htells' h' => ?_⟩
  · obtain ⟨hends, hanswered⟩ := play_ends (World.serve_all ttl) w₁ (updateConfig p).run
    exact ⟨_, _, _, hends, hanswered⟩
  have hmapped₁ : Registers.Mapped w₁.device := by
    rw [hdevice]
    exact (Registers.overlays_performed _).mapped hmapped
  have hadmitted₁ : ConfigUpdate.Admitted p w₁.device := by
    rw [hdevice]
    exact hadmitted.again hmapped
  obtain ⟨c', hconfig', rfl, -, hdevice'⟩ :=
    updateConfig_of_faultless hcache₁ hmapped₁ hadmitted₁ h' htells'
  have hsame : w₂.device = w₁.device := by
    rw [hdevice', hdevice]
    exact (Registers.overlays_performed _).twice _
  rw [hsame, hconfig] at hconfig'
  rw [Except.ok.inj hconfig']
  exact ⟨rfl, hsame⟩

/-- Another time and capacity, and a gentler update with the battery type that it needs. -/
def renewed : ConfigUpdate where
  time := DateTime.ofFields? ⟨2024, 2, 29, 23, 59, 59, 0⟩
  batteryType := some .userDefined
  batteryCapacity := some 150
  tempCompCoefficient := some (Binary.ofNat 7 / Binary.ofNat 3)
  charging := gentler

/-- On a sealed battery, the first of two such updates changes the type, and the second nothing. -/
theorem renewed_twice :
    Registers.Mapped World.sealed.device ∧ Coherent World.sealed ∧
      ∃ es w₁ c es' w₂, Tells (updateConfig renewed) es (.ok (.confirmed c)) ∧
        Answered (Faultless 60000) World.sealed es w₁ ∧
        w₁.device Register.batteryType.address = some 4 ∧
        Tells (updateConfig renewed) es' (.ok (.confirmed c)) ∧
        Answered (Faultless 60000) w₁ es' w₂ ∧ w₂.device = w₁.device := by
  have hmapped : Registers.Mapped World.sealed.device := by decide +kernel
  have hcache : Coherent World.sealed := coherent_of_empty rfl
  refine ⟨hmapped, hcache, ?_⟩
  have hplay := play_ends (World.serve_all 60000) World.sealed (updateConfig renewed).run
  have hok : (play (World.serve (fun _ => false) 60000) World.sealed
      (updateConfig renewed).run).2.1.isOk = true := by
    decide +kernel
  have htype : (play (World.serve (fun _ => false) 60000) World.sealed
      (updateConfig renewed).run).2.2.device Register.batteryType.address = some 4 := by
    decide +kernel
  generalize play (World.serve (fun _ => false) 60000) World.sealed (updateConfig renewed).run =
    played at hplay hok htype
  obtain ⟨es, result, w₁⟩ := played
  obtain ⟨htells, hanswered⟩ := hplay
  cases result with
  | error fault => cases hok
  | ok v =>
      obtain ⟨c, rfl, ⟨es', result, w₂, htells', hanswered'⟩, hall⟩ :=
        repeated_update_harmless 60000 World.sealed w₁ renewed es v hmapped hcache htells hanswered
      obtain ⟨rfl, hsame⟩ := hall es' result w₂ htells' hanswered'
      exact ⟨es, w₁, c, es', w₂, htells, hanswered, htype, htells', hanswered', hsame⟩

end Settings

end ChargeController
