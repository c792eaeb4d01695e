import ChargeController.Proofs.Settings.Order
import ChargeController.Proofs.Settings.Rejection

/-!
# The gate before the parameters

The charging parameters and the temperature compensation belong to the user-defined battery type.
Two operations write them, and each has its own gate: the one asks the device for its type, the
other may bring a type and stores it before anything else.  Behind the gate nothing writes the type,
so it is still there at every write of a parameter, whichever requests fail in between.

* `IsParameter` — the addresses behind the gate.
* `Gated` — parameters are written only while the registers hold the user-defined type.
* **`Operation.gated`** — every operation is gated, on any registers.
* **`parameters_behind_gate`** — every session is, and what is rejected changes at most the type.
-/

namespace ChargeController

open Settings Dialogue

/-- Whether an address is that of a setting that belongs to the user-defined battery type. -/
def IsParameter (a : UInt16) : Prop :=
  (0x9002 ≤ a ∧ a ≤ 0x900E) ∨ (0x9016 ≤ a ∧ a ≤ 0x901A) ∨ a = 0x906B ∨ a = 0x906C

/-- The parameters are what an update writes behind the gate. -/
lemma isParameter_iff {a : UInt16} :
    IsParameter a ↔ a ∈ (Register.tempCompCoefficient :: chargingRegisters).map (·.address) := by
  have haddresses : (Register.tempCompCoefficient :: chargingRegisters).map (·.address) =
      [0x9002, 0x9003, 0x9004, 0x9005, 0x9006, 0x9007, 0x9008, 0x9009, 0x900A, 0x900B, 0x900C,
        0x900D, 0x900E, 0x9016, 0x9017, 0x9018, 0x9019, 0x901A, 0x906B, 0x906C] := by
    decide
  rw [haddresses]
  simp only [IsParameter, List.mem_cons, List.not_mem_nil, or_false, UInt16.le_iff_toNat_le,
    ← UInt16.toNat_inj, UInt16.reduceToNat]
  omega

lemma apart_of_ungated {r : Register} (hr : r ∈ ungated) {a : UInt16} (ha : IsParameter a) :
    Registers.Apart a r := by
  have hall : (ungated.all fun r =>
      ((Register.tempCompCoefficient :: chargingRegisters).map (·.address)).all fun a =>
        decide (r.address ≠ a ∧
          ∀ i < r.quantity.toNat, Device.offsetAddress? r.address i ≠ some a)) = true := by
    decide
  simp only [Registers.Apart]
  exact of_decide_eq_true
    (List.all_eq_true.mp (List.all_eq_true.mp hall r hr) a (isParameter_iff.mp ha))

namespace Settings

variable {mayFail : Request → Prop} {ttl : Nat} {w w' : World Bank}

/-! ## Gated accounts -/

/-- That registers hold the user-defined battery type. -/
def HoldsUserDefined (b : Bank) : Prop :=
  b Register.batteryType.address = some 4

/-- Wherever an account that begins with these registers asks to write a parameter, the registers
hold the user-defined battery type. -/
def Gated (b : Bank) (es : List Line) : Prop :=
  ∀ before r answer rest a, es = before ++ ⟨.send r, answer⟩ :: rest → IsParameter a →
    Registers.Reaches a r → HoldsUserDefined (Registers.after b before)

lemma Gated.append {b : Bank} {es es' : List Line} (hes : Gated b es)
    (hes' : Gated (Registers.after b es) es') : Gated b (es ++ es') := by
  intro before r answer rest a heq ha hreaches
  rcases append_eq_append_cons.mp heq with ⟨rest', rfl, -⟩ | ⟨before', rfl, rfl⟩
  · exact hes before r answer rest' a rfl ha hreaches
  · rw [Registers.after_append]
    exact hes' before' r answer rest a rfl ha hreaches

lemma gated_of_spares {b : Bank} {es : List Line}
    (h : ∀ a, IsParameter a → ∀ e ∈ es, Registers.Spares a e) : Gated b es := by
  rintro before r answer rest a rfl ha hreaches
  exact absurd hreaches (h a ha _ List.mem_append_cons_self r answer rfl)

lemma gated_of_holds {b : Bank} {es : List Line} (hb : HoldsUserDefined b)
    (h : ∀ e ∈ es, Registers.Spares Register.batteryType.address e) : Gated b es := by
  rintro before r answer rest a rfl - -
  have hbefore : ∀ e ∈ before, Registers.Spares Register.batteryType.address e := by
    intro e he
    exact h e (List.mem_append_left _ he)
  exact (Registers.after_of_spares hbefore b).trans hb

/-! ## What the device says of its type -/

lemma ofCode_userDefined {n : Nat} (h : BatteryType.ofCode n = .userDefined) : n = 4 := by
  unfold BatteryType.ofCode at h
  split at h
  · cases h
  · cases h
  · cases h
  · rfl
  · cases h

lemma tells_currentBatteryType_ok {es : List Line} {t : BatteryType}
    (h : Tells currentBatteryType es (.ok t)) :
    ∃ data code, es = [⟨.send Register.batteryType.readRequest, .ok data⟩] ∧
      Register.readWord "int" data = .ok code ∧ t = BatteryType.ofCode code.toNat := by
  obtain ⟨_, data, _, rfl, hread, hrest⟩ := tells_bind_ok.mp h
  obtain ⟨_, code, _, rfl, hdecoded, hlast⟩ := tells_bind_ok.mp hrest
  obtain rfl := tells_readRegister_ok.mp hread
  obtain ⟨rfl, hword⟩ := tells_decoded_ok.mp hdecoded
  obtain ⟨rfl, ht⟩ := tells_pure.mp hlast
  exact ⟨data, code, rfl, hword, Except.ok.inj ht⟩

/-- **A device that says its battery is user-defined holds that type.** -/
theorem holds_of_currentBatteryType {es : List Line}
    (h : Answered (World.Replies (Registers.Answers mayFail) ttl) w es w')
    (htells : Tells currentBatteryType es (.ok .userDefined)) : HoldsUserDefined w.device := by
  have hnone := storeless_consults.currentBatteryType _ _ htells
  obtain ⟨data, code, rfl, hword, ht⟩ := tells_currentBatteryType_ok htells
  obtain ⟨words, hwords, rfl⟩ := read_of_answered h hnone List.mem_cons_self
  obtain ⟨address, word, haddress, hholds, hfirst⟩ :=
    Device.readRegisters_word hwords (show 0 < Register.batteryType.quantity.toNat by decide)
  have hsame : Device.offsetAddress? Register.batteryType.address 0 =
      some Register.batteryType.address := by
    decide
  obtain rfl := Option.some.inj (hsame.symm.trans haddress)
  obtain rfl := Option.some.inj (hfirst.symm.trans (readWord_bytes hword))
  have hfour : word.toNat = 4 := ofCode_userDefined ht.symm
  rw [HoldsUserDefined, hholds]
  exact congrArg some (UInt16.toNat_inj.mp hfour)

/-! ## Operations -/

/-- Besides the battery type itself, no register that an operation writes is at its address. -/
lemma apart_batteryType {r : Register}
    (hr : r ∈ [Register.deviceClock, Register.batteryCapacity, Register.tempCompCoefficient]
      ++ chargingRegisters) : Registers.Apart Register.batteryType.address r := by
  revert r
  unfold Registers.Apart
  decide

/-- Behind the gate of a configuration update nothing writes the battery type. -/
lemma storeConfig_spares (p : ConfigUpdate) :
    Always (fun es => ∀ e ∈ es, Registers.Spares Register.batteryType.address e) (do
      storeConfig p
      invalidateIf (configStages p).wrote
      confirm (configStages p).what cachedConfig) := by
  have hP := Registers.allows_spares Register.batteryType.address
  refine .bind hP.toLasting (storeConfig_always hP ?_ ?_) fun _ => ?_
  · intro w hw
    have hregister := (updateWrites_sublist p).subset (List.mem_map_of_mem hw)
    exact apart_batteryType (List.mem_cons_of_mem _ hregister)
  · exact apart_batteryType List.mem_cons_self
  · exact .bind hP.toLasting (hP.invalidateIf _) fun _ => hP.cached.confirm _

lemma updateConfig_gated {p : ConfigUpdate} {es : List Line}
    {result : Except SettingsFault (Confirmation DeviceConfig)}
    (h : Answered (World.Replies (Registers.Answers mayFail) ttl) w es w')
    (htells : Tells (updateConfig p) es result) (htouches : p.touchesCharging = true) :
    Gated w.device es := by
  -- What comes before the gate writes the battery type alone.
  have hprepared {es : List Line} {result : Except SettingsFault Unit}
      (hprepare : Tells (prepareConfig p) es result) : Gated w.device es := by
    refine gated_of_spares fun a ha => ?_
    have htype := apart_of_ungated (by simp [ungated] : Register.batteryType ∈ ungated) ha
    exact prepareConfig_always (Registers.allows_spares a) p htype _ _ hprepare
  rw [updateConfig_eq] at htells
  rcases tells_bind.mp htells with ⟨_, hprepare, -⟩ | ⟨prepared, _, rest, rfl, hprepare, hrest⟩
  · exact hprepared hprepare
  refine (hprepared hprepare).append (gated_of_holds ?_ (storeConfig_spares p _ _ hrest))
  obtain ⟨typed, checked, rfl, htyped, hchecked⟩ := tells_prepareConfig_ok hprepare
  obtain ⟨asked, proposal, rfl, hproposal, hasked⟩ := tells_checkCharging_ok hchecked htouches
  have hnone := checkCharging_always storeless_consults p _ _ hchecked
  rw [Registers.after_append, Registers.after_of_no_store hnone]
  rcases tells_updateBatteryType htyped with ⟨habsent, rfl, -⟩ |
    ⟨t, code, e, ht, hcode, ⟨data, rfl⟩, rfl, -⟩ | ⟨_, _, -, -, hok⟩
  · -- No type came with the update, so the device was asked for its own.
    rcases hasked with ⟨hpresent, -⟩ | ⟨-, hasked⟩
    · rw [habsent] at hpresent
      cases hpresent
    rw [List.nil_append, List.append_assoc] at h
    obtain ⟨_, hanswered, -⟩ := answered_append.mp h
    exact holds_of_currentBatteryType hanswered hasked
  · -- The type that came with the update was stored.
    rcases hasked with ⟨hpresent, -⟩ | ⟨habsent, -⟩
    · obtain rfl := Option.some.inj (ht.symm.trans hpresent)
      obtain rfl := Option.some.inj hcode
      exact Device.put_same w.device Register.batteryType.address (some 4)
    · rw [habsent] at ht
      cases ht
  · cases hok

lemma updateCharging_gated {p : ChargingUpdate} {es : List Line}
    {result : Except SettingsFault (Confirmation ChargingParameters)}
    (h : Answered (World.Replies (Registers.Answers mayFail) ttl) w es w')
    (htells : Tells (updateCharging p) es result) : Gated w.device es := by
  rw [updateCharging_eq] at htells
  have hspares := chargingStages_always (Registers.allows_spares Register.batteryType.address)
    (fun w hw => ?_) _ _ htells
  swap
  · have hregister := (writes_sublist p).subset (List.mem_map_of_mem hw)
    exact apart_batteryType (List.mem_append_right _ hregister)
  rcases tells_bind.mp htells with ⟨_, hprepare, -⟩ | ⟨prepared, _, rest, rfl, hprepare, -⟩
  · refine gated_of_spares fun a _ e he => ?_
    exact Registers.spares_of_quiet (prepareCharging_quiet p _ _ hprepare e he)
  · obtain ⟨asked, proposal, rfl, hasked, -⟩ := tells_prepareCharging_ok hprepare
    rw [List.append_assoc] at h
    obtain ⟨_, hanswered, -⟩ := answered_append.mp h
    exact gated_of_holds (holds_of_currentBatteryType hanswered hasked) hspares

/-- **Every operation is gated**, whatever the registers and the cache hold and whichever requests
fail. -/
theorem Operation.gated {op : Operation} {es : List Line} {result : Except SettingsFault op.Value}
    (h : Answered (World.Replies (Registers.Answers mayFail) ttl) w es w')
    (htells : Tells op.procedure es result) : Gated w.device es := by
  cases hchecks : op.checks with
  | false =>
      refine gated_of_spares fun a ha => ?_
      refine Operation.always (Registers.allows_spares a) (fun r hr => ?_) _ _ htells
      exact apart_of_ungated (ungated_of_mayWrite hchecks hr) ha
  | true =>
      cases op with
      | updateConfig p => exact updateConfig_gated h htells hchecks
      | updateCharging p => exact updateCharging_gated h htells
      | _ => cases hchecks

/-! ## Sessions -/

lemma Session.gated {log : List Finished}
    (session : Session (World.Replies (Registers.Answers mayFail) ttl) w log w') :
    Gated w.device (lines log) := by
  induction session with
  | start => exact gated_of_spares fun _ _ e he => by cases he
  | next before tells answered ih =>
      rw [lines_concat]
      refine ih.append ?_
      rw [← device_of_answered before.answered]
      exact Operation.gated answered tells

/-- What an operation changes that was rejected: nothing, or only the battery type, which then came
with an update of the configuration. -/
lemma device_of_rejected {op : Operation} {es : List Line} {fault : SettingsFault}
    (h : Answered (World.Replies (Registers.Answers mayFail) ttl) w es w')
    (htells : Tells op.procedure es (.error fault)) (hclient : fault.isClientFault = true)
    (a : UInt16) :
    w'.device a = w.device a ∨ (a = Register.batteryType.address ∧
      ∃ p t code, op = .updateConfig p ∧ p.batteryType = some t ∧ t.code? = some code) := by
  rcases Operation.rejected htells hclient with hnone | ⟨ht, hcode, -, hrejected⟩
  · exact .inl (congrFun (turns_of_no_write hnone h) a)
  by_cases ha : a = Register.batteryType.address
  · exact .inr ⟨ha, _, _, _, rfl, ht, hcode⟩
  · refine .inl ?_
    obtain ⟨w₁, hstored, hrest⟩ := answered_cons.mp h
    have hnone := no_write_of_quiet (checkCharging_always quiet_consults _ _ _ hrejected)
    rw [turns_of_no_write (List.forall_mem_cons.mpr ⟨rfl, hnone⟩) hrest]
    exact (congrFun (device_of_replies hstored) a).trans (Device.put_of_ne ha)

/-- **Parameters are written behind the gate.**  In a session over a device whose registers only
accepted writes change, whatever they and the cache held at the start and whichever requests fail:
whenever a parameter is written, the registers hold the user-defined battery type.  And an operation
that is rejected, for the battery type or another reason, leaves all registers as they were, apart
from the battery type that came with an update of the configuration. -/
theorem parameters_behind_gate {log : List Finished}
    (session : Session (World.Replies (Registers.Answers mayFail) ttl) w log w') :
    (∀ before r answer rest v a, lines log = before ++ ⟨.send r, answer⟩ :: rest →
      Answered (World.Replies (Registers.Answers mayFail) ttl) w before v → IsParameter a →
      Registers.Reaches a r → v.device Register.batteryType.address = some 4) ∧
    ∀ f ∈ log, ∀ fault, f.result = .error fault → fault.isClientFault = true →
      ∀ v v', Answered (World.Replies (Registers.Answers mayFail) ttl) v f.account v' →
      ∀ a, v'.device a = v.device a ∨ (a = Register.batteryType.address ∧
        ∃ p t code, f.op = .updateConfig p ∧ p.batteryType = some t ∧ t.code? = some code) := by
  constructor
  · intro before r answer rest v a hcut hanswered ha hreaches
    rw [device_of_answered hanswered]
    exact session.gated before r answer rest a hcut ha hreaches
  · intro f hf fault hresult hclient v v' hanswered a
    have htells := session.tells hf
    rw [hresult] at htells
    exact device_of_rejected hanswered htells hclient a

/-- Whether a result is that an operation was rejected. -/
def isRejected {α : Type} : Except SettingsFault α → Bool
  | .error fault => fault.isClientFault
  | .ok _ => false

/-- On a sealed battery: a charging update, and then the same voltage with the type it needs. -/
def boostAtLast : List Operation :=
  [.updateCharging (.setting .boost 1450),
    .updateConfig ⟨none, some .userDefined, none, none, .setting .boost 1450⟩]

/-- The first of these updates changes nothing, and the second finds the type that it has stored. -/
theorem boost_behind_gate :
    let played := playAll (World.serve (fun _ => false) 60000) World.sealed boostAtLast
    (∃ before answer rest, lines played.1 =
        before ++ ⟨.send (.writeWord Register.boostVoltage.address 1450), answer⟩ :: rest ∧
      Registers.after World.sealed.device before Register.batteryType.address = some 4) ∧
      ∃ f ∈ played.1, isRejected f.result = true ∧
        ∀ v v', Answered (World.Replies (Registers.Answers fun _ => False) 60000) v f.account v' →
          v'.device = v.device := by
  intro played
  have session := playAll_session (World.serve_all 60000) World.sealed boostAtLast
  obtain ⟨hgate, hrejected⟩ := parameters_behind_gate session
  constructor
  · have hasks : ((lines played.1).any
        (·.asks (.writeWord Register.boostVoltage.address 1450))) = true := by
      decide +kernel
    obtain ⟨e, he, hwrite⟩ := List.any_eq_true.mp hasks
    obtain ⟨answer, rfl⟩ := Exchange.asks_eq hwrite
    obtain ⟨before, rest, hcut⟩ := List.append_of_mem he
    have hanswered := session.answered
    change Answered _ _ (lines played.1) _ at hanswered
    rw [hcut] at hanswered
    obtain ⟨v, hv, -⟩ := answered_append.mp hanswered
    refine ⟨before, answer, rest, hcut, ?_⟩
    rw [← device_of_answered hv]
    exact hgate before _ answer rest v _ hcut hv (.inl (by decide)) rfl
  · let first := play (World.serve (fun _ => false) 60000) World.sealed
      (updateCharging (.setting .boost 1450)).run
    have hfirst : isRejected first.2.1 = true := by decide +kernel
    refine ⟨⟨.updateCharging (.setting .boost 1450), first.1, first.2.1⟩, List.mem_cons_self,
      hfirst, fun v v' hanswered => funext fun a => ?_⟩
    cases hresult : first.2.1 with
    | ok c =>
        rw [hresult] at hfirst
        cases hfirst
    | error fault =>
        rw [hresult] at hfirst
        rcases hrejected _ List.mem_cons_self fault hresult hfirst v v' hanswered a with
          hsame | ⟨-, _, _, _, hop, -⟩
        · exact hsame
        · cases hop

end Settings

end ChargeController
