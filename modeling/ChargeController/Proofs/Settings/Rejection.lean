import ChargeController.Proofs.Settings.Thresholds

/-!
# Rejected operations

What is wrong with a request is found out before anything is stored, with one exception: a new
battery type is stored first, and only then is what comes with it checked.  So an operation that is
rejected has asked for no write at all, or for that of the battery type alone.

* `Stages.rejected` — storing and reading back never end with a fault of the client's.
* **`Operation.rejected`** — what an operation has said that ends with such a fault.
* **`refused_before_storing`** — what it leaves in the registers when a check has refused it.
* `refused_after_storing_type` — the exception, in the registers of a sealed battery.
-/

namespace ChargeController

open Settings Dialogue

namespace Settings

variable {α : Type}

/-! ## Stages -/

/-- **An update that ends with a fault of the client's has come no further than preparing**, if its
storing throws none. -/
theorem Stages.rejected {s : Stages α} {es : List Line} {fault : SettingsFault}
    (hstore : ∀ {prepared}, Tells s.prepare prepared (.ok ()) →
      Throws (·.isClientFault = false) s.store)
    (h : Tells s.procedure es (.error fault)) (hclient : fault.isClientFault = true) :
    Tells s.prepare es (.error fault) := by
  rcases Stages.tells_staged.mp h with ⟨fault', hprepare, heq⟩ |
    ⟨prepared, stored, fault', rfl, hprepare, hstored, heq⟩ | ⟨_, _, back, -, -, -, hback⟩
  · obtain rfl := Except.error.inj heq
    exact hprepare
  · obtain rfl := Except.error.inj heq
    rw [hstore hprepare _ _ hstored] at hclient
    cases hclient
  · cases Throws.confirm (F := fun _ => False) _ _ _ _ hback

lemma throws_storeBatteryType {t : BatteryType} (ht : t ≠ .unknown) :
    Throws (·.isWriting = true) (storeBatteryType t) := by
  simp only [storeBatteryType]
  split
  · exact throws_writeRegister _
  · next hcode => exact absurd (code?_eq_none.mp hcode) ht

lemma throws_storeProfile {p : ProfileUpdate} (hp : p.batteryType ≠ some .unknown) :
    Throws (·.isWriting = true) (storeProfile p) := by
  refine .bind (throws_whenPresent fun t ht => throws_storeBatteryType ?_) fun _ =>
    throws_whenPresent fun capacity _ => throws_writeRegister _
  rintro rfl
  exact hp ht

lemma tells_prepareProfile_ok {p : ProfileUpdate} {es : List Line} {u : Unit}
    (h : Tells (prepareProfile p) es (.ok u)) : p.batteryType ≠ some .unknown := by
  simp only [prepareProfile] at h
  split at h
  · cases (tells_throw.mp h).2
  · next hknown => exact hknown

lemma throws_storeConfig (p : ConfigUpdate) :
    Throws (fun fault => fault.isWriting = true ∨ fault.isReading = true) (storeConfig p) :=
  .bind ((throws_writeAll _).mono fun _ => .inl) fun _ =>
    throws_whenPresent fun t _ => throws_storeClock t

/-! ## Operations -/

/-- An account in which a configuration update had its battery type stored and forgotten about, and
was then rejected. -/
inductive StoredType (fault : SettingsFault) : Operation → List Line → Prop
  | intro {p t code data checked} (present : p.batteryType = some t) (known : t.code? = some code)
      (tempComp : ∀ x, p.tempCompCoefficient = some x → checkTempComp x = .ok ())
      (rejected : Tells (checkCharging p) checked (.error fault)) :
      StoredType fault (.updateConfig p)
        (⟨.send (.writeWord Register.batteryType.address code), .ok data⟩ ::
          ⟨.forget, ()⟩ :: checked)

lemma no_write_of_quiet {es : List Line} (h : ∀ e ∈ es, e.quiet = true) :
    ∀ e ∈ es, e.writes = false :=
  fun e he => Exchange.writes_of_quiet (h e he)

/-- A battery type that is rejected has not been sent. -/
lemma updateBatteryType_rejected {p : ConfigUpdate} {es : List Line} {fault : SettingsFault}
    (h : Tells (updateBatteryType p) es (.error fault)) (hclient : fault.isClientFault = true) :
    es = [] := by
  rcases tells_updateBatteryType h with ⟨-, -, hok⟩ | ⟨_, _, _, -, -, -, -, hok⟩ |
    ⟨t, fault', -, hstore, heq⟩
  · cases hok
  · cases hok
  obtain rfl := Except.error.inj heq
  rcases tells_storeBatteryType hstore with ⟨_, _, -, -, -, hok⟩ | ⟨_, _, -, -, hfault⟩ |
    ⟨-, hnothing, -⟩
  · cases hok
  · obtain rfl := Except.error.inj hfault
    cases hclient
  · exact hnothing

/-- No check refuses the user-defined battery type itself. -/
lemma updateBatteryType_refused {p : ConfigUpdate} {es : List Line} {fault : ParameterFault}
    (h : Tells (updateBatteryType p) es (.error (.refused fault)))
    (ht : p.batteryType = some .userDefined) : False := by
  rcases tells_updateBatteryType h with ⟨-, -, hok⟩ | ⟨_, _, _, -, -, -, -, hok⟩ |
    ⟨t, fault', ht', hstore, heq⟩
  · cases hok
  · cases hok
  obtain rfl := Option.some.inj (ht.symm.trans ht')
  obtain rfl := Except.error.inj heq
  rcases tells_storeBatteryType hstore with ⟨_, _, -, -, -, hok⟩ | ⟨_, _, -, -, hfault⟩ |
    ⟨hcode, -, -⟩
  · cases hok
  · cases hfault
  · cases hcode

/-- A configuration update is rejected before it stores anything, or after its battery type. -/
lemma prepareConfig_rejected {p : ConfigUpdate} {es : List Line} {fault : SettingsFault}
    (h : Tells (prepareConfig p) es (.error fault)) (hclient : fault.isClientFault = true) :
    (∀ e ∈ es, e.writes = false) ∨ StoredType fault (.updateConfig p) es := by
  have hnone (e : Line) (he : e ∈ ([] : List Line)) : e.writes = false := by cases he
  rcases tells_bind.mp h with ⟨_, htempComp, -⟩ | ⟨first, _, rest, rfl, htempComp, hrest⟩
  · -- The temperature compensation was refused, which nothing comes before.
    obtain rfl := silent_whenPresent (fun _ => silent_allowed _) _ _ htempComp
    exact .inl hnone
  obtain rfl := silent_whenPresent (fun _ => silent_allowed _) _ _ htempComp
  rcases tells_bind.mp hrest with ⟨fault', htype, heq⟩ | ⟨typed, _, checked, rfl, htype, hrejected⟩
  · obtain rfl := Except.error.inj heq
    obtain rfl := updateBatteryType_rejected htype hclient
    exact .inl hnone
  rcases tells_updateBatteryType htype with ⟨-, rfl, -⟩ |
    ⟨t, code, e, ht, hcode, ⟨data, rfl⟩, rfl, -⟩ | ⟨_, _, -, -, hok⟩
  · exact .inl (no_write_of_quiet (checkCharging_always quiet_consults p _ _ hrejected))
  · refine .inr (.intro ht hcode (fun x hx => ?_) hrejected)
    exact (tells_allowed_ok.mp (tells_of_present htempComp hx)).2
  · cases hok

/-- A configuration update is rejected while it prepares. -/
lemma updateConfig_rejected {p : ConfigUpdate} {es : List Line} {fault : SettingsFault}
    (h : Tells (updateConfig p) es (.error fault)) (hclient : fault.isClientFault = true) :
    Tells (prepareConfig p) es (.error fault) := by
  rw [updateConfig_eq] at h
  refine Stages.rejected (s := configStages p) (fun _ => ?_) h hclient
  refine (throws_storeConfig p).mono fun fault hfault => ?_
  rcases hfault with hfault | hfault
  · exact SettingsFault.isClientFault_of_isWriting hfault
  · exact SettingsFault.isClientFault_of_isReading hfault

/-- **An operation that is rejected has asked for no write**, or only for that of the battery type
of a configuration update. -/
theorem Operation.rejected {op : Operation} {es : List Line} {fault : SettingsFault}
    (h : Tells op.procedure es (.error fault)) (hclient : fault.isClientFault = true) :
    (∀ e ∈ es, e.writes = false) ∨ StoredType fault op es := by
  induction op using kinds with
  | looks op hlooks _ _ => exact .inl (no_write_of_quiet (hlooks quiet_consults _ _ h))
  | invalidate =>
      obtain ⟨_, -, hok⟩ := tells_ask.mp h
      cases hok
  | updateConfig p => exact prepareConfig_rejected (updateConfig_rejected h hclient) hclient
  | updateProfile p =>
      change Tells (Settings.updateProfile p) es (.error fault) at h
      rw [updateProfile_eq] at h
      have hprepare := Stages.rejected (s := profileStages p) (fun hprepared =>
        (throws_storeProfile (tells_prepareProfile_ok hprepared)).mono fun _ =>
          SettingsFault.isClientFault_of_isWriting) h hclient
      obtain rfl := silent_prepareProfile p _ _ hprepare
      exact .inl fun e he => by cases he
  | updateCharging p =>
      change Tells (Settings.updateCharging p) es (.error fault) at h
      rw [updateCharging_eq] at h
      have hprepare := Stages.rejected (s := chargingStages p) (fun _ =>
        (throws_writeAll _).mono fun _ => SettingsFault.isClientFault_of_isWriting) h hclient
      exact .inl (no_write_of_quiet (prepareCharging_quiet p _ _ hprepare))
  | setTime t =>
      have hprepare := Stages.rejected (s := timeStages t) (fun _ =>
        (throws_storeClock t).mono fun fault hfault => hfault.elim
          SettingsFault.isClientFault_of_isWriting SettingsFault.isClientFault_of_isReading)
        h hclient
      obtain rfl := silent_pure _ _ _ hprepare
      exact .inl fun e he => by cases he

/-! ## Refused updates -/

/-- What the checks refuse they have checked for the user-defined battery type. -/
lemma tells_checkCharging_refused {p : ConfigUpdate} {t : BatteryType} {es : List Line}
    {fault : ParameterFault} (h : Tells (checkCharging p) es (.error (.refused fault)))
    (ht : p.batteryType = some t) : t = .userDefined ∧ p.touchesCharging = true := by
  simp only [checkCharging] at h
  split at h
  · next htouches =>
      refine ⟨?_, htouches⟩
      rw [ht] at h
      rcases tells_bind.mp h with ⟨_, hgiven, -⟩ | ⟨_, t', _, rfl, hgiven, hchecks⟩
      · cases (tells_pure.mp hgiven).2
      obtain ⟨-, heq⟩ := tells_pure.mp hgiven
      obtain rfl := Except.ok.inj heq
      rcases tells_bind.mp hchecks with ⟨fault', hrequired, heq⟩ | ⟨_, _, _, -, hrequired, -⟩
      · obtain rfl := Except.error.inj heq
        obtain ⟨-, ⟨-, hok⟩ | ⟨-, hfault⟩⟩ := tells_requireUserDefined.mp hrequired
        · cases hok
        · cases hfault
      · exact (tells_requireUserDefined_ok hrequired).2
  · cases (tells_pure.mp h).2

/-- What an account turns the registers into, wherever they answer as it says. -/
def Turns (es : List Line) (f : Bank → Bank) : Prop :=
  ∀ {mayFail : Request → Prop} {ttl : Nat} {w w' : World Bank},
    Answered (World.Replies (Registers.Answers mayFail) ttl) w es w' → w'.device = f w.device

lemma turns_of_no_write {es : List Line} (h : ∀ e ∈ es, e.writes = false) : Turns es id := by
  intro mayFail ttl w w' hanswered
  refine device_of_no_store hanswered fun e he => Bool.eq_false_iff.mpr fun hstores => ?_
  have hwrites := h e he
  rw [Exchange.writes_of_stores hstores] at hwrites
  cases hwrites

/-- An update whose charging parameters are for the battery type that comes with them. -/
structure BringsType (p : ConfigUpdate) : Prop where
  batteryType : p.batteryType = some .userDefined
  charging : p.touchesCharging = true
  tempComp : ∀ x, p.tempCompCoefficient = some x → checkTempComp x = .ok ()

/-- An update that brings its battery type has stored it by the time that a check refuses it. -/
lemma BringsType.stored {p : ConfigUpdate} {es : List Line} {fault : ParameterFault}
    (hp : BringsType p) (h : Tells (prepareConfig p) es (.error (.refused fault))) :
    ∃ data checked, es = ⟨.send (.writeWord Register.batteryType.address 4), .ok data⟩ ::
        ⟨.forget, ()⟩ :: checked ∧ Tells (checkCharging p) checked (.error (.refused fault)) := by
  rcases tells_bind.mp h with ⟨fault', htempComp, -⟩ | ⟨first, _, rest, rfl, htempComp, hrest⟩
  · -- A temperature compensation, if there is one, is allowed.
    cases hx : p.tempCompCoefficient with
    | none =>
        rw [hx] at htempComp
        cases (tells_pure.mp htempComp).2
    | some x =>
        have hallowed := tells_of_present htempComp hx
        rw [hp.tempComp x hx] at hallowed
        cases (tells_pure.mp hallowed).2
  obtain rfl := silent_whenPresent (fun _ => silent_allowed _) _ _ htempComp
  rcases tells_bind.mp hrest with ⟨fault', htype, heq⟩ | ⟨typed, _, checked, rfl, htype, hrefused⟩
  · -- The battery type that it brings is known, so only the device can refuse it.
    obtain rfl := Except.error.inj heq
    exact (updateBatteryType_refused htype hp.batteryType).elim
  · rcases tells_updateBatteryType htype with ⟨hnone, -, -⟩ |
      ⟨t, code, e, ht, hcode, ⟨data, rfl⟩, rfl, -⟩ | ⟨_, _, -, -, hok⟩
    · cases hp.batteryType.symm.trans hnone
    · obtain rfl := Option.some.inj (hp.batteryType.symm.trans ht)
      obtain rfl := Option.some.inj hcode
      exact ⟨data, checked, rfl, hrefused⟩
    · cases hok

/-- **What the checks refuse has not been written, but for a battery type.**  An operation that they
refuse has asked for no write and leaves the registers as they were, unless it is an update of the
configuration that brings the user-defined battery type for its charging parameters.  Such an update
has stored that type, and nothing else, whenever it is refused. -/
theorem refused_before_storing {op : Operation} {es : List Line} {fault : ParameterFault}
    (h : Tells op.procedure es (.error (.refused fault))) :
    ((∀ p, op = .updateConfig p → ¬ BringsType p) →
        (∀ e ∈ es, e.writes = false) ∧ Turns es id) ∧
      ∀ p, op = .updateConfig p → BringsType p →
        ∃ data later, es = ⟨.send (.writeWord Register.batteryType.address 4), .ok data⟩ :: later ∧
          (∀ e ∈ later, e.writes = false) ∧
          Turns es fun b => Device.put b Register.batteryType.address (some 4) := by
  constructor
  · intro hnot
    rcases Operation.rejected h rfl with hnone | ⟨ht, hcode, htempComp, hrejected⟩
    · exact ⟨hnone, turns_of_no_write hnone⟩
    · obtain ⟨rfl, htouches⟩ := tells_checkCharging_refused hrejected ht
      exact absurd ⟨ht, htouches, htempComp⟩ (hnot _ rfl)
  · rintro p rfl hp
    obtain ⟨data, checked, rfl, hrefused⟩ := hp.stored (updateConfig_rejected h rfl)
    have hnone := no_write_of_quiet (checkCharging_always quiet_consults _ _ _ hrefused)
    have hlater : ∀ e ∈ (⟨.forget, ()⟩ :: checked : List Line), e.writes = false :=
      List.forall_mem_cons.mpr ⟨rfl, hnone⟩
    refine ⟨data, _, rfl, hlater, fun hanswered => ?_⟩
    obtain ⟨w₁, hstored, hrest⟩ := answered_cons.mp hanswered
    exact (turns_of_no_write hlater hrest).trans (device_of_replies hstored)

/-- Whether a result is that a check has refused. -/
def isRefused : Except SettingsFault α → Bool
  | .error (.refused _) => true
  | _ => false

lemma isRefused_iff {result : Except SettingsFault α} :
    isRefused result = true ↔ ∃ fault, result = .error (.refused fault) := by
  constructor
  · intro h
    match result, h with
    | .error (.refused fault), _ => exact ⟨fault, rfl⟩
  · rintro ⟨fault, rfl⟩
    rfl

/-- A boost voltage above the equalization voltage of the sample, perhaps with a battery type. -/
def highBoost (t : Option BatteryType) : Operation :=
  .updateConfig ⟨none, t, none, none, .setting .boost 1500⟩

/-- Without a battery type, the refused voltage leaves the registers as they were. -/
theorem untouched_after_refusal :
    let played :=
      play (World.serve (fun _ => false) 60000) World.sample (highBoost none).procedure.run
    (∃ fault, played.2.1 = .error (.refused fault)) ∧ (∀ e ∈ played.1, e.writes = false) ∧
      played.2.2.device = World.sample.device := by
  intro played
  have hrefused : isRefused played.2.1 = true := by decide +kernel
  obtain ⟨fault, hresult⟩ := isRefused_iff.mp hrefused
  obtain ⟨htells, hanswered⟩ := play_ends (World.serve_all 60000) World.sample
    (highBoost none).procedure.run
  have htells : Tells (highBoost none).procedure played.1 (.error (.refused fault)) := by
    rw [← hresult]
    exact htells
  obtain ⟨hnone, hturns⟩ := (refused_before_storing htells).1 fun p hop htype => by
    cases hop
    cases htype.batteryType
  exact ⟨⟨fault, hresult⟩, hnone, hturns hanswered⟩

/-- **A refused update can have stored its battery type.**  The registers are those of a sealed
battery, and after the refusal they are those of a user-defined one. -/
theorem refused_after_storing_type :
    let op := highBoost (some .userDefined)
    let played := play (World.serve (fun _ => false) 60000) World.sealed op.procedure.run
    Answered (World.Replies (Registers.Answers fun _ => False) 60000) World.sealed played.1
        played.2.2 ∧
      (∃ fault, Tells op.procedure played.1 (.error (.refused fault))) ∧
      (∃ e ∈ played.1, e.writes = true) ∧
      World.sealed.device Register.batteryType.address = some 1 ∧
      played.2.2.device Register.batteryType.address = some 4 := by
  intro op played
  have hrefused : isRefused played.2.1 = true := by decide +kernel
  obtain ⟨fault, hresult⟩ := isRefused_iff.mp hrefused
  obtain ⟨htells, hanswered⟩ := play_ends (World.serve_all 60000) World.sealed op.procedure.run
  refine ⟨hanswered, ⟨fault, ?_⟩, by decide +kernel, by decide +kernel, by decide +kernel⟩
  rw [← hresult]
  exact htells

end Settings

end ChargeController
