import ChargeController.Proofs.Settings.Coherence
import ChargeController.Proofs.Settings.Thresholds

/-!
# Thresholds stay in order

The checks look at the cached configuration, and in a session where no write fails the cache is
coherent, so they look at the registers.  An operation that has passed them leaves every rule
holding, and every other operation leaves the thresholds alone.

* `Finished.Regular` — an operation whose writes were accepted, with voltages and a moment that the
  registers can hold.
* **`Finished.Regular.step`** — what a regular operation does to the rules.
* **`thresholds_stay_in_order`** — from the first check that is passed, the rules hold.
-/

namespace ChargeController

open Settings Dialogue

namespace Settings

variable {mayFail : Request → Prop} {ttl : Nat} {w w' : World Bank}

/-! ## One checked update -/

/-- A proposal that was checked in a coherent world and then written leaves every rule holding. -/
lemma holdsIn_of_checked {p : ChargingUpdate} {ws : List RegisterWrite}
    {proposal stored rest : List Line} {u : Unit} (hw : Coherent w)
    (h : Answered (World.Replies (Registers.Answers mayFail) ttl) w
      (proposal ++ (stored ++ rest)) w')
    (hproposal : Tells (checkProposal p) proposal (.ok u)) (hstored : Stored ws stored)
    (hcarries : Carries p ws) (hdecodes : p.Decodes)
    (hrest : ∀ x : Threshold, ∀ e ∈ rest, Registers.Spares x.register.address e)
    (rule : OrderRule) : rule.HoldsIn w'.device := by
  obtain ⟨c, hcached, -, horder⟩ := tells_checkProposal_ok hproposal
  have hnone := storeless_consults.checkProposal p _ _ hproposal
  have hdevice : w'.device = Registers.after (Registers.after w.device stored) rest := by
    rw [device_of_answered h, Registers.after_append, Registers.after_append,
      Registers.after_of_no_store hnone]
  obtain ⟨w₁, hanswered, -⟩ := answered_append.mp h
  have hconfig := hw.cached hanswered hcached
  refine holdsIn_of_merge (b := w.device) hdecodes (fun x _ => config_threshold hconfig x)
    (fun x _ => ?_) (ChargingParameters.obeys_of_checkOrder horder rule)
  rw [hdevice, Registers.after_of_spares (hrest x), hcarries.after hstored]

/-! ## Regular operations -/

namespace Operation

/-- The charging parameters that an operation brings. -/
def brings : Operation → Option ChargingUpdate
  | updateConfig p => some p.charging
  | updateCharging p => some p
  | _ => none

/-- Whether an operation checks the charging parameters that it leaves. -/
def checks : Operation → Bool
  | updateConfig p => p.touchesCharging
  | updateCharging _ => true
  | _ => false

end Operation

/-- An operation whose writes were all accepted, whose voltages are values of words, and whose
moment the clock registers can hold. -/
structure Finished.Regular (f : Finished) : Prop where
  accepted : ∀ e ∈ f.account, e.writes = true → e.stores = true
  decodes {p} : f.op.brings = some p → p.Decodes
  encodes {p t} : f.op = .updateConfig p → p.time = some t → 2000 ≤ t.year ∧ t.year ≤ 2255

lemma Finished.Regular.encodable {f : Finished} (hf : f.Regular) : ¬ f.op.Unencodable := by
  intro hunencodable
  cases hop : f.op with
  | updateConfig p =>
      rw [hop] at hunencodable
      obtain ⟨t, ht, hencodes⟩ := hunencodable
      exact hencodes (encodes_iff.mpr (hf.encodes hop ht))
  | _ =>
      rw [hop] at hunencodable
      exact hunencodable

lemma Finished.Regular.settled {f : Finished} (hf : f.Regular)
    (tells : Tells f.op.procedure f.account f.result) : ¬ Unsettled f.account := by
  intro hunsettled
  rcases (Operation.unsettled tells hunsettled).2 with ⟨e, he, hwrites, hrefused⟩ | hunencodable
  · rw [hf.accepted e he hwrites] at hrefused
    cases hrefused
  · exact hf.encodable hunencodable

/-- What an operation may do to the thresholds: it leaves them alone and has not passed a check, or
every rule holds after it. -/
def Orders (w w' : World Bank) (passed : Prop) : Prop :=
  ((∀ x : Threshold, w'.device x.register.address = w.device x.register.address) ∧ ¬ passed) ∨
    ∀ rule : OrderRule, rule.HoldsIn w'.device

lemma orders_of_spares {es : List Line} {passed : Prop}
    (h : Answered (World.Replies (Registers.Answers mayFail) ttl) w es w')
    (hspares : ∀ x : Threshold, ∀ e ∈ es, Registers.Spares x.register.address e)
    (hpassed : ¬ passed) : Orders w w' passed :=
  .inl ⟨fun x => by rw [device_of_answered h, Registers.after_of_spares (hspares x)], hpassed⟩

lemma spares_of_always {α : Type} {p : Procedure α} {es : List Line}
    {result : Except SettingsFault α} (h : Always (fun es => ∀ e ∈ es, e.quiet = true) p)
    (htells : Tells p es result) (x : Threshold) :
    ∀ e ∈ es, Registers.Spares x.register.address e :=
  fun e he => Registers.spares_of_quiet (h es result htells e he)

/-- What is left of a coherent world by something that says only quiet lines. -/
lemma Coherent.quiet {α : Type} {p : Procedure α} {es : List Line}
    {result : Except SettingsFault α} (hw : Coherent w)
    (hp : ∀ {P : List Line → Prop}, Consults P → Always P p) (htells : Tells p es result)
    (h : Answered (World.Replies (Registers.Answers mayFail) ttl) w es w') :
    Coherent w' ∧ w'.device = w.device :=
  ⟨hw.next h (hp refreshed_consults es result htells)
      (not_unsettled_of_quiet (hp quiet_consults es result htells)),
    device_of_no_store h (hp storeless_consults es result htells)⟩

lemma spares_of_tail {α : Type} {s : Stages α} {back : List Line}
    {result : Except SettingsFault (Confirmation α)} (h : Tells (confirm s.what s.read) back result)
    (x : Threshold) :
    ∀ e ∈ forgetting s.wrote ++ back, Registers.Spares x.register.address e := by
  intro e he
  simp only [List.mem_append] at he
  rcases he with he | he
  · obtain rfl := eq_forget_of_mem_forgetting he
    intro r answer heq
    cases heq
  · exact spares_of_always (s.read_quiet.confirm s.what) h x e he

/-- A charging update leaves the thresholds alone if it is refused, and in order if it is not. -/
lemma updateCharging_orders {p : ChargingUpdate} {es : List Line}
    {result : Except SettingsFault (Confirmation ChargingParameters)} (hw : Coherent w)
    (h : Answered (World.Replies (Registers.Answers mayFail) ttl) w es w')
    (htells : Tells (updateCharging p) es result)
    (haccepted : ∀ e ∈ es, e.writes = true → e.stores = true) (hdecodes : p.Decodes) :
    Orders w w' (∃ v, result = .ok v) := by
  rw [updateCharging_eq] at htells
  rcases Stages.tells_staged.mp htells with ⟨fault, hprepare, rfl⟩ |
    ⟨prepared, stored, fault, rfl, -, hstore, -⟩ |
    ⟨prepared, stored, back, rfl, hprepare, hstore, hback⟩
  · refine orders_of_spares h (spares_of_always (prepareCharging_quiet p) hprepare) ?_
    rintro ⟨v, hv⟩
    cases hv
  · obtain ⟨e, he, hwrites, hrefused⟩ := writeAll_refusal hstore
    rw [haccepted e (List.mem_append_right _ he) hwrites] at hrefused
    cases hrefused
  · obtain ⟨asked, proposal, rfl, hasked, hproposal⟩ := tells_prepareCharging_ok hprepare
    rw [List.append_assoc] at h
    obtain ⟨w₁, hfirst, hsecond⟩ := answered_append.mp h
    obtain ⟨hw₁, -⟩ := hw.quiet (fun hP => hP.currentBatteryType) hasked hfirst
    exact .inr (holdsIn_of_checked hw₁ hsecond hproposal (tells_writeAll_ok.mp hstore)
      (carries_writes p) hdecodes (spares_of_tail hback))

/-- A configuration update that touches charging parameters leaves the thresholds alone if it is
refused, and in order if it is not. -/
lemma updateConfig_orders {p : ConfigUpdate} {es : List Line}
    {result : Except SettingsFault (Confirmation DeviceConfig)} (hw : Coherent w)
    (h : Answered (World.Replies (Registers.Answers mayFail) ttl) w es w')
    (htells : Tells (updateConfig p) es result)
    (haccepted : ∀ e ∈ es, e.writes = true → e.stores = true) (hdecodes : p.charging.Decodes)
    (hencodable : ¬ ConfigUpdate.Unencodable p) (htouches : p.touchesCharging = true) :
    Orders w w' (∃ v, result = .ok v) := by
  rw [updateConfig_eq] at htells
  have hspares (x : Threshold) := Registers.allows_spares x.register.address
  rcases Stages.tells_staged.mp htells with ⟨fault, hprepare, rfl⟩ |
    ⟨prepared, stored, fault, rfl, -, hstore, -⟩ |
    ⟨prepared, stored, back, rfl, hprepare, hstore, hback⟩
  · refine orders_of_spares h (fun x => ?_) ?_
    · have htype : Registers.Apart x.register.address Register.batteryType :=
        apart_threshold List.mem_cons_self x
      exact prepareConfig_always (hspares x) p htype _ _ hprepare
    · rintro ⟨v, hv⟩
      cases hv
  · rcases (storing_storeConfig p).failed hstore with ⟨e, he, hwrites, hrefused⟩ | haccident
    · rw [haccepted e (List.mem_append_right _ he) hwrites] at hrefused
      cases hrefused
    · exact absurd haccident hencodable
  · obtain ⟨typed, checked, rfl, htyped, hchecked⟩ := tells_prepareConfig_ok hprepare
    obtain ⟨asked, proposal, rfl, hproposal, hasked⟩ := tells_checkCharging_ok hchecked htouches
    obtain ⟨words, _, clock, rfl, hwords, hclock⟩ := tells_bind_ok.mp hstore
    simp only [List.append_assoc] at h
    obtain ⟨w₁, hfirst, hrest⟩ := answered_append.mp h
    obtain ⟨w₂, hsecond, hthird⟩ := answered_append.mp hrest
    -- The battery type is stored and forgotten about, which leaves the world coherent.
    have hw₁ : Coherent w₁ := by
      refine hw.next hfirst ?_ (updateBatteryType_settled p _ _ htyped)
      exact updateBatteryType_always refreshed_allows trivial p _ _ htyped
    have hw₂ : Coherent w₂ := by
      rcases hasked with ⟨-, rfl⟩ | ⟨-, hasked⟩
      · obtain rfl := answered_nil.mp hsecond
        exact hw₁
      · exact (hw₁.quiet (fun hP => hP.currentBatteryType) hasked hsecond).1
    refine .inr (holdsIn_of_checked hw₂ hthird hproposal (tells_writeAll_ok.mp hwords)
      (carries_updateWrites p) hdecodes fun x e he => ?_)
    rcases List.mem_append.mp he with he | he
    · refine whenPresent_always (hspares x).toLasting p.time ?_ _ _ hclock e he
      exact (hspares x).storeClock (apart_threshold (by simp [ChargingUpdate.otherRegisters]) x)
    · exact spares_of_tail hback x e he

/-! ## Regular sessions -/

/-- An operation that checks nothing writes only what every battery type lets change. -/
lemma ungated_of_mayWrite {op : Operation} (hop : op.checks = false) {r : Register}
    (hr : op.MayWrite r) : r ∈ ungated := by
  cases hr with
  | configType => simp [ungated]
  | @configWord p w hw =>
      have hparts : p.tempCompCoefficient.isSome = false ∧ (!p.charging.isEmpty) = false :=
        Bool.or_eq_false_iff.mp hop
      have htempComp : p.tempCompCoefficient = none := by
        rw [← Option.isNone_iff_eq_none, ← Option.isSome_eq_false_iff]
        exact hparts.1
      have hcharging : p.charging.writes = [] :=
        writes_eq_nil.mpr (by rw [← Bool.not_eq_false']; exact hparts.2)
      simp only [updateWrites] at hw
      rw [htempComp, hcharging, List.append_nil] at hw
      obtain ⟨capacity, -, rfl⟩ := Option.map_eq_some_iff.mp
        (Option.mem_toList.mp (by rwa [Option.map_none, Option.toList_none, List.append_nil] at hw))
      simp [ungated, RegisterWrite.ofCapacity]
  | configClock => simp [ungated]
  | profileType => simp [ungated]
  | profileCapacity => simp [ungated]
  | charging _ => cases hop
  | clock => simp [ungated]

/-- An operation that checks nothing writes none of the thresholds. -/
lemma apart_of_mayWrite {op : Operation} (hop : op.checks = false) {r : Register}
    (hr : op.MayWrite r) (x : Threshold) : Registers.Apart x.register.address r :=
  apart_threshold (otherRegisters_of_ungated (ungated_of_mayWrite hop hr)) x

/-- **What a regular operation does to the rules**: it leaves the thresholds alone and has not
passed a check, or every rule holds after it. -/
theorem Finished.Regular.step {f : Finished} (hf : f.Regular) (hw : Coherent w)
    (h : Answered (World.Replies (Registers.Answers mayFail) ttl) w f.account w')
    (htells : Tells f.op.procedure f.account f.result) :
    Orders w w' (f.op.checks = true ∧ ∃ v, f.result = .ok v) := by
  have hencodable := hf.encodable
  obtain ⟨op, es, result⟩ := f
  cases hchecks : op.checks with
  | false =>
      refine orders_of_spares h (fun x => ?_) fun hpassed => by cases hpassed.1
      exact Operation.always (Registers.allows_spares x.register.address)
        (fun r hr => apart_of_mayWrite hchecks hr x) _ _ htells
  | true =>
      have horders : Orders w w' (∃ v, result = .ok v) := by
        cases op with
        | updateConfig p =>
            exact updateConfig_orders hw h htells hf.accepted (hf.decodes rfl) hencodable hchecks
        | updateCharging p => exact updateCharging_orders hw h htells hf.accepted (hf.decodes rfl)
        | _ => cases hchecks
      exact horders.imp_left fun ⟨hsame, hpassed⟩ => ⟨hsame, fun hboth => hpassed hboth.2⟩

lemma Session.coherent {log : List Finished}
    (session : Session (World.Replies (Registers.Answers mayFail) ttl) w log w')
    (hw : Coherent w) (hlog : ∀ f ∈ log, f.Regular) : Coherent w' := by
  induction session with
  | start => exact hw
  | @next log w₁ w₂ f before tells answered ih =>
      have hf : f.Regular := hlog f (List.mem_append_right _ List.mem_cons_self)
      have hw₁ := ih fun g hg => hlog g (List.mem_append_left _ hg)
      exact hw₁.next answered (f.op.refreshed _ _ tells) (hf.settled tells)

lemma Session.holdsIn {log : List Finished}
    (session : Session (World.Replies (Registers.Answers mayFail) ttl) w log w')
    (hw : Coherent w) (hlog : ∀ f ∈ log, f.Regular)
    (hholds : ∀ rule : OrderRule, rule.HoldsIn w.device) (rule : OrderRule) :
    rule.HoldsIn w'.device := by
  induction session generalizing rule with
  | start => exact hholds rule
  | @next log w₁ w₂ f before tells answered ih =>
      have hearlier : ∀ g ∈ log, g.Regular := fun g hg => hlog g (List.mem_append_left _ hg)
      have hf : f.Regular := hlog f (List.mem_append_right _ List.mem_cons_self)
      rcases hf.step (before.coherent hw hearlier) answered tells with ⟨hsame, -⟩ | hall
      · exact (ih hearlier rule).congr fun x _ => hsame x
      · exact hall rule

/-- **The thresholds stay in order.**  In a session that begins with an empty cache, over a device
whose registers only accepted writes change and whose reads may fail at any time: once an operation
that checks the charging parameters has not failed, the rules hold after every operation from there
on, whatever the operations were and whatever the registers held before. -/
theorem thresholds_stay_in_order {log₁ log₂ : List Finished} {f : Finished}
    (session : Session (World.Replies (Registers.Answers mayFail) ttl) w (log₁ ++ f :: log₂) w')
    (hstart : w.cache = .empty) (hlog : ∀ g ∈ log₁ ++ f :: log₂, g.Regular)
    (hchecks : f.op.checks = true) (hok : ∃ v, f.result = .ok v) (rule : OrderRule) :
    rule.HoldsIn w'.device := by
  rw [List.append_cons] at session
  obtain ⟨w₂, hfirst, hlater⟩ := session.cut
  obtain ⟨w₁, hbefore, htells, hanswered⟩ := hfirst.last
  have hf : f.Regular := hlog f (List.mem_append_right _ List.mem_cons_self)
  have hw₁ : Coherent w₁ := hbefore.coherent (coherent_of_empty hstart) fun g hg =>
    hlog g (List.mem_append_left _ hg)
  have hw₂ : Coherent w₂ := hw₁.next hanswered (f.op.refreshed _ _ htells) (hf.settled htells)
  -- The check was passed here, so the rules hold after this operation.
  have hholds : ∀ rule : OrderRule, rule.HoldsIn w₂.device := by
    rcases hf.step hw₁ hanswered htells with ⟨-, hpassed⟩ | hall
    · exact absurd ⟨hchecks, hok⟩ hpassed
    · exact hall
  refine hlater.holdsIn hw₂ (fun g hg => ?_) hholds rule
  exact hlog g (List.mem_append_right _ (List.mem_cons_of_mem _ hg))

/-- Two updates that are in order one by one, but not both together. -/
def boostThenFloat : List Operation :=
  [.updateCharging (.setting .boost 1400), .updateCharging (.setting .float 1420), .config]

/-- The second of these updates is refused, so the registers stay in order. -/
theorem in_order_after_refusal :
    let played := playAll (World.serve (fun _ => false) 60000) World.sample boostThenFloat
    played.2.device Register.boostVoltage.address = some 1400 ∧
      ∀ rule : OrderRule, rule.HoldsIn played.2.device := by
  intro played
  have session := playAll_session (World.serve_all 60000) World.sample boostThenFloat
  have haccepted : ∀ f ∈ played.1, ∀ e ∈ f.account, e.writes = true → e.stores = true := by
    decide +kernel
  have hok : (played.1.head?.any fun f => f.op.checks && f.result.isOk) = true := by decide +kernel
  have hlog : ∀ f ∈ played.1, f.Regular := by
    intro f hf
    have hop : f.op ∈ boostThenFloat := op_of_mem_playAll hf
    refine ⟨haccepted f hf, fun {p} hp => ?_, fun {p t} hp => ?_⟩
    · simp only [boostThenFloat, List.mem_cons, List.not_mem_nil, or_false] at hop
      rcases hop with hop | hop | hop <;> rw [hop] at hp <;> cases hp
      · exact ChargingUpdate.setting_decodes _ _
      · exact ChargingUpdate.setting_decodes _ _
    · simp [boostThenFloat, hp] at hop
  refine ⟨by decide +kernel, fun rule => ?_⟩
  obtain ⟨f, hf, hchecks⟩ := (Option.any_eq_true _ _).mp hok
  obtain ⟨rest, hcut⟩ := List.head?_eq_some_iff.mp hf
  rw [← List.nil_append (f :: rest)] at hcut
  rw [Bool.and_eq_true] at hchecks
  have hvalue : ∃ v, f.result = .ok v := by
    cases hresult : f.result with
    | ok v => exact ⟨v, rfl⟩
    | error fault =>
        rw [hresult] at hchecks
        cases hchecks.2
  change ∀ f ∈ (playAll _ _ _).1, f.Regular at hlog
  change (playAll _ _ _).1 = _ at hcut
  rw [hcut] at session hlog
  exact thresholds_stay_in_order session rfl hlog hchecks.1 hvalue rule

end Settings

end ChargeController
