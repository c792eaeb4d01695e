import ChargeController.Proofs.Settings.Rejection
import ChargeController.Proofs.Settings.View

/-!
# Whose fault it is

A fault either lies in the request, or with the device and the link.  Where the device answers all
that it is asked, and with bytes that suffice, reading cannot fail and neither can a write, so what
is left are the checks of the request; and these come before anything is stored, the battery type
apart.  One check comes late and is not counted among them: that of the year, which the clock
registers may have no room for.  Its fault reads like one of the device, and the words that came
with the moment have been stored by then.

* `Exchange.served` — the answer to a request is all that the request asked for.
* `Blames` — the kind of every fault of a procedure that was served throughout.
* **`Operation.blames`** — an operation that was served blames its request, or the year.
* **`fault_of_request`** — and what it blames on the request has changed at most the battery type.
* `misdated_update_blames_device` — an update that fails because of its year, after storing a word.
-/

namespace ChargeController

open Settings Dialogue

/-! ## Answers that suffice -/

/-- How many bytes the answer to a read has. -/
def Table.answerLength (t : Table) (quantity : UInt16) : Nat :=
  match t with
  | .coil => (quantity.toNat + 7) / 8
  | .discreteInput => (quantity.toNat + 7) / 8
  | .holding => quantity.toNat * 2
  | .input => quantity.toNat * 2

/-- Whether an answer is all that a request asked for: a read of the clock also wants a moment that
exists. -/
def Request.isServedBy (r : Request) : Answer → Bool
  | .error _ => false
  | .ok data =>
      match r with
      | .read t _ quantity =>
          decide (t.answerLength quantity ≤ data.length) &&
            (r != Register.deviceClock.readRequest || (Register.readClock data).isOk)
      | .writeWord _ _ => true
      | .writeWords _ _ => true

/-- Whether a line is no request, or one with all that it asked for. -/
def Exchange.served : Exchange Ask Reply → Bool
  | ⟨.send r, answer⟩ => r.isServedBy answer
  | _ => true

/-- Who was served has got at least the bytes that belong to the answer. -/
lemma length_of_served {t : Table} {a q : UInt16} {data : Bytes}
    (h : (Request.read t a q).isServedBy (.ok data) = true) :
    t.answerLength q ≤ data.length := by
  rw [Request.isServedBy, Bool.and_eq_true, decide_eq_true_eq] at h
  exact h.1

/-- The clock registers, when they are served, hold a moment. -/
lemma readClock_of_served {data : Bytes}
    (h : Register.deviceClock.readRequest.isServedBy (.ok data) = true) :
    ∃ moment, Register.readClock data = .ok moment := by
  rw [Register.readRequest, Request.isServedBy, Bool.and_eq_true, Bool.or_eq_true] at h
  rcases h.2 with hother | hmoment
  · cases hother
  · cases hread : Register.readClock data with
    | ok moment => exact ⟨moment, rfl⟩
    | error fault =>
        rw [hread] at hmoment
        cases hmoment

namespace Settings

variable {α β : Type} {F G : SettingsFault → Prop}

/-- An account in which every request got all that it asked for. -/
def Served (es : List Line) : Prop :=
  ∀ e ∈ es, e.served = true

instance (es : List Line) : Decidable (Served es) :=
  inferInstanceAs (Decidable (∀ e ∈ es, e.served = true))

/-! ## Faults where everything is served -/

/-- Every fault that a procedure ends with, where everything is served, is of a kind. -/
def Blames (F : SettingsFault → Prop) (p : Procedure α) : Prop :=
  ∀ es fault, Served es → Tells p es (.error fault) → F fault

/-- A reading that stops was not served. -/
lemma ReadThrough.unserved {blocks : List Block} {es : List Line} {fault : SettingsFault}
    (h : ReadThrough blocks es (some fault)) : ¬ Served es := by
  generalize hsome : some fault = stopped at h
  induction h with
  | all => cases hsome
  | refused => exact fun hserved => Bool.false_ne_true (hserved _ List.mem_cons_self)
  | @short b rest data what expected lacks needed =>
      intro hserved
      have hlong : b.register.table.answerLength b.register.quantity ≤ data.length :=
        length_of_served (hserved _ List.mem_cons_self)
      have hlength : b.register.table.answerLength b.register.quantity = b.register.byteLength := by
        cases b <;> rfl
      omega
  | next _ _ ih => exact fun hserved => ih hsome fun e he => hserved e (List.mem_cons_of_mem _ he)

namespace Blames

lemma mono {p : Procedure α} (h : Blames F p) (himp : ∀ fault, F fault → G fault) : Blames G p :=
  fun es fault hserved htells => himp fault (h es fault hserved htells)

lemma of_throws {p : Procedure α} (h : Throws F p) : Blames F p :=
  fun es fault _ htells => h es fault htells

lemma pure (a : α) : Blames F (pure a) :=
  of_throws (.pure a)

/-- What comes second may count on what was told, and served, before it. -/
lemma bind {p : Procedure α} {f : α → Procedure β} (hp : Blames F p)
    (hf : ∀ es a, Served es → Tells p es (.ok a) → Blames F (f a)) : Blames F (p >>= f) := by
  intro es fault hserved h
  rcases tells_bind.mp h with ⟨fault', hfault, heq⟩ | ⟨first, a, second, rfl, hfirst, hsecond⟩
  · obtain rfl := Except.error.inj heq
    exact hp es fault hserved hfault
  · have hserved₁ : Served first := fun e he => hserved e (List.mem_append_left _ he)
    have hserved₂ : Served second := fun e he => hserved e (List.mem_append_right _ he)
    exact hf first a hserved₁ hfirst second fault hserved₂ hsecond

lemma confirm (what : String) (read : Procedure α) : Blames F (confirm what read) :=
  of_throws (.confirm read what)

lemma whenPresent {x : Option α} {f : α → Procedure Unit}
    (h : ∀ a, x = some a → Blames F (f a)) : Blames F (whenPresent x f) := by
  cases x with
  | some a => exact h a rfl
  | none => exact pure ()

/-- What follows a request may count on an answer that serves it. -/
lemma sending {r : Request} {f : Answer → Procedure β}
    (hf : ∀ data, r.isServedBy (.ok data) = true → Blames F (f (.ok data))) :
    Blames F (send r >>= f) := by
  refine .bind (of_throws (.ask _)) fun es answer hserved htells => ?_
  obtain ⟨reply, rfl, hreply⟩ := tells_send.mp htells
  obtain rfl := Except.ok.inj hreply
  have hanswer := hserved _ List.mem_cons_self
  cases answer with
  | ok data => exact hf data hanswer
  | error source => cases hanswer

lemma reading {r : Register} {f : Bytes → Procedure β}
    (hf : ∀ data, r.readRequest.isServedBy (.ok data) = true → Blames F (f data)) :
    Blames F (readRegister r >>= f) := by
  have hread : Blames F (readRegister r) := sending fun data _ => pure data
  refine .bind hread fun es data hserved htells => ?_
  obtain rfl := tells_readRegister_ok.mp htells
  exact hf data (hserved _ List.mem_cons_self)

lemma decoded {r : Register} {x : Except RegisterFault α} (hx : ∃ a, x = .ok a) :
    Blames F (decoded r x) := by
  obtain ⟨a, rfl⟩ := hx
  exact pure a

/-! ## Reading -/

/-- **A configuration that is served can be read.** -/
theorem readConfig : Blames F readConfig := by
  intro es fault hserved h
  rcases tells_readConfig h with ⟨fault', hthrough, -⟩ | ⟨_, -, -, hok⟩
  · exact absurd hserved hthrough.unserved
  · cases hok

/-- So can one that is taken from the cache, if there is one. -/
lemma cachedConfig : Blames F cachedConfig := by
  intro es fault hserved h
  rcases tells_cachedConfig.mp h with ⟨_, -, hok⟩ | ⟨g, reads, fault', rfl, hreads, heq⟩ |
    ⟨_, _, _, -, -, hok⟩
  · cases hok
  · obtain rfl := Except.error.inj heq
    exact readConfig reads fault (fun e he => hserved e (List.mem_cons_of_mem _ he)) hreads
  · cases hok

lemma batteryProfile : Blames F batteryProfile :=
  .bind .cachedConfig fun _ _ _ _ => .pure _

lemma chargingParameters : Blames F chargingParameters :=
  .bind .cachedConfig fun _ _ _ _ => .pure _

lemma currentTime : Blames F currentTime :=
  .reading fun _ hdata => .decoded (readClock_of_served hdata)

lemma currentBatteryType : Blames F currentBatteryType :=
  .reading fun _ hdata =>
    .bind (.decoded (Register.readWord_of_long (length_of_served hdata))) fun _ _ _ _ => .pure _

/-! ## Checking -/

lemma allowed (check : Except ParameterFault Unit) :
    Blames (·.isClientFault = true) (allowed check) := by
  cases check with
  | ok _ => exact pure ()
  | error fault => exact of_throws (.throw rfl)

lemma requireUserDefined (t : BatteryType) :
    Blames (·.isClientFault = true) (requireUserDefined t) := by
  intro es fault _ h
  obtain ⟨-, ⟨-, hok⟩ | ⟨-, hfault⟩⟩ := tells_requireUserDefined.mp h
  · cases hok
  · obtain rfl := Except.error.inj hfault
    rfl

/-- A proposal is refused only for what it proposes. -/
lemma checkProposal (p : ChargingUpdate) :
    Blames (·.isClientFault = true) (checkProposal p) :=
  .bind .cachedConfig fun _ _ _ _ => .bind (.allowed _) fun _ _ _ _ => .allowed _

lemma queriedValue {t : Table} {a : UInt16} {data : Bytes}
    (h : (Request.read t a 1).isServedBy (.ok data) = true) :
    ∃ value, queriedValue t data = .ok value := by
  have hlength := length_of_served h
  cases t with
  | coil =>
      match data, hlength with
      | byte :: _, _ => exact ⟨_, rfl⟩
  | discreteInput =>
      match data, hlength with
      | byte :: _, _ => exact ⟨_, rfl⟩
  | holding => exact Register.readWord_of_long hlength
  | input => exact Register.readWord_of_long hlength

/-- A query that is served fails only by itself. -/
lemma query (code : UInt8) (address : String) :
    Blames (·.isClientFault = true) (query code address) := by
  simp only [Settings.query]
  split
  · exact of_throws (.throw rfl)
  · exact of_throws (.throw rfl)
  · refine .sending fun data hdata => ?_
    obtain ⟨value, hvalue⟩ := queriedValue hdata
    simp only [hvalue]
    exact pure _

/-! ## Writing -/

lemma writeRegister (w : RegisterWrite) : Blames F (writeRegister w) :=
  .sending fun _ _ => .pure ()

lemma writeAll (ws : List RegisterWrite) : Blames F (writeAll ws) := by
  induction ws with
  | nil => exact pure ()
  | cons w rest ih => exact .bind (writeRegister w) fun _ _ _ _ => ih

lemma storeBatteryType (t : BatteryType) :
    Blames (·.isClientFault = true) (storeBatteryType t) := by
  simp only [Settings.storeBatteryType]
  split
  · exact writeRegister _
  · exact of_throws (.throw rfl)

lemma invalidateIf (wrote : Bool) : Blames F (invalidateIf wrote) := by
  intro es fault _ h
  cases (tells_invalidateIf.mp h).2

end Blames

/-! ## The year -/

/-- The fault of a moment that the clock registers cannot hold. -/
structure Misdated (t : DateTime) (fault : SettingsFault) : Prop where
  year : ¬ Encodes t
  fault : fault =
    .decode Register.deviceClock.name Register.deviceClock.address (.yearOutOfRange t.year)

lemma clockBytes_of_misdated {t : DateTime} (h : ¬ Encodes t) :
    Register.clockBytes t = .error (.yearOutOfRange t.year) :=
  Register.clockBytes_eq_error (mt encodes_iff.mpr h)

/-- A moment is not stored only if the clock registers cannot hold it. -/
lemma Blames.storeClock (t : DateTime) : Blames (Misdated t) (storeClock t) := by
  by_cases hencodes : Encodes t
  · intro es fault hserved h
    rcases tells_storeClock h with ⟨_, _, -, -, hok⟩ | ⟨_, _, -, rfl, -⟩ | ⟨_, hnone, -, -⟩
    · cases hok
    · cases hserved _ List.mem_cons_self
    · rw [← clockRequest?_isSome, hnone] at hencodes
      cases hencodes
  · have hbytes := clockBytes_of_misdated hencodes
    intro es fault _ h
    rcases tells_bind.mp h with ⟨fault', hdecoded, heq⟩ | ⟨_, bytes, _, -, hdecoded, -⟩
    · obtain rfl := Except.error.inj heq
      rw [hbytes] at hdecoded
      exact ⟨hencodes, Except.error.inj (tells_decoded.mp hdecoded).2⟩
    · rw [hbytes] at hdecoded
      cases (tells_decoded_ok.mp hdecoded).2

/-! ## Operations -/

/-- An update is to blame for what its first two stages blame it for. -/
lemma Stages.blames {s : Stages α} (hprepare : Blames F s.prepare) (hstore : Blames F s.store) :
    Blames F s.procedure :=
  .bind hprepare fun _ _ _ _ => .bind hstore fun _ _ _ _ =>
    .bind (.invalidateIf _) fun _ _ _ _ => .confirm _ _

lemma blames_prepareConfig (p : ConfigUpdate) :
    Blames (·.isClientFault = true) (prepareConfig p) := by
  have hchecks (t : BatteryType) : Blames (·.isClientFault = true) (do
      requireUserDefined t
      checkProposal p.charging) :=
    .bind (.requireUserDefined t) fun _ _ _ _ => .checkProposal p.charging
  refine .bind (.whenPresent fun x _ => .allowed _) fun _ _ _ _ => ?_
  refine .bind ?_ fun _ _ _ _ => ?_
  · simp only [updateBatteryType]
    split
    · exact .bind (.storeBatteryType _) fun _ _ _ _ => .invalidateIf true
    · exact .pure ()
  · simp only [checkCharging]
    split
    · split
      · exact hchecks _
      · exact .bind .currentBatteryType fun _ t _ _ => hchecks t
    · exact .pure ()

namespace Operation

/-- The moment that an operation sets the clock to. -/
def moment? : Operation → Option DateTime
  | updateConfig p => p.time
  | setTime t => some t
  | _ => none

/-- A fault that an operation has of its own: it lies in the request, or in the year of its
moment. -/
def Own (op : Operation) (fault : SettingsFault) : Prop :=
  fault.isClientFault = true ∨ ∃ t, op.moment? = some t ∧ Misdated t fault

/-- **An operation that is served throughout has no faults but its own.** -/
theorem blames (op : Operation) : Blames op.Own op.procedure := by
  have hclient {α : Type} {p : Procedure α} (h : Blames (·.isClientFault = true) p) :
      Blames op.Own p := h.mono fun _ => .inl
  cases op with
  | readConfig => exact Blames.readConfig
  | config => exact Blames.cachedConfig
  | invalidate => exact Blames.invalidateIf true
  | profile => exact Blames.batteryProfile
  | charging => exact Blames.chargingParameters
  | time => exact Blames.currentTime
  | updateConfig p =>
      show Blames _ (Settings.updateConfig p)
      rw [updateConfig_eq]
      refine Stages.blames (hclient (blames_prepareConfig p)) ?_
      refine .bind (.writeAll _) fun _ _ _ _ => .whenPresent fun t ht => ?_
      exact (Blames.storeClock t).mono fun _ hmisdated => .inr ⟨t, ht, hmisdated⟩
  | updateProfile p =>
      show Blames _ (Settings.updateProfile p)
      rw [updateProfile_eq]
      refine hclient (Stages.blames ?_ ?_)
      · show Blames _ (prepareProfile p)
        simp only [prepareProfile]
        split
        · exact .of_throws (.throw rfl)
        · exact .pure ()
      · exact .bind (.whenPresent fun t _ => .storeBatteryType t) fun _ _ _ _ =>
          .whenPresent fun _ _ => .writeRegister _
  | updateCharging p =>
      show Blames _ (Settings.updateCharging p)
      rw [updateCharging_eq]
      refine hclient (Stages.blames ?_ (.writeAll _))
      exact .bind .currentBatteryType fun _ t _ _ =>
        .bind (.requireUserDefined t) fun _ _ _ _ => .checkProposal p
  | setTime t =>
      refine Stages.blames (s := timeStages t) (.pure ()) ?_
      exact (Blames.storeClock t).mono fun _ hmisdated => .inr ⟨t, rfl, hmisdated⟩
  | query table address => exact hclient (Blames.query table address)

/-- An operation that is rejected spares every register but that of the battery type. -/
lemma spares_of_rejected {op : Operation} {es : List Line} {fault : SettingsFault}
    (h : Tells op.procedure es (.error fault)) (hclient : fault.isClientFault = true) {a : UInt16}
    (ha : a ≠ Register.batteryType.address) : ∀ e ∈ es, Registers.Spares a e := by
  rcases Operation.rejected h hclient with hnone | ⟨-, -, -, hrejected⟩
  · exact fun e he => Registers.spares_of_no_write (hnone e he)
  have hquiet := checkCharging_always quiet_consults _ _ _ hrejected
  refine List.forall_mem_cons.mpr ⟨?_, List.forall_mem_cons.mpr ⟨?_, fun e he => ?_⟩⟩
  · rintro r answer heq hreaches
    cases heq
    exact ha hreaches.symm
  · exact Registers.spares_of_no_write rfl
  · exact Registers.spares_of_quiet (hquiet e he)

end Operation

/-! ## Registers of any device -/

section

variable {D : Type} {device : Answering D} {view : D → Bank} {ttl : Nat} {w w' : World D}

/-- A device changes a register only when it is asked to. -/
structure ChangesOnRequest (device : Answering D) (view : D → Bank) : Prop where
  spared {d r answer d' a} : device d r answer d' → ¬ Registers.Reaches a r → view d' a = view d a

lemma view_of_spares (hview : ChangesOnRequest device view) {es : List Line}
    (h : Answered (World.Replies device ttl) w es w') {a : UInt16}
    (hes : ∀ e ∈ es, Registers.Spares a e) : view w'.device a = view w.device a := by
  induction h with
  | nil w => rfl
  | @cons w w₁ w₂ e es first rest ih =>
      rw [ih fun e' he' => hes e' (List.mem_cons_of_mem _ he')]
      have hspares := hes e List.mem_cons_self
      obtain ⟨q, r⟩ := e
      cases first with
      | send answer _ => exact hview.spared answer (hspares _ _ rfl)
      | _ => rfl

/-- **Where the device serves every request, an operation fails only for what was asked of it.**
Whatever the cache holds, the fault lies in the request and no register has changed but perhaps that
of the battery type; or the year of the moment that came with the request is one that the clock
registers cannot hold. -/
theorem fault_of_request (hview : ChangesOnRequest device view) {op : Operation} {es : List Line}
    {fault : SettingsFault} (hanswered : Answered (World.Replies device ttl) w es w')
    (hserved : Served es) (htells : Tells op.procedure es (.error fault)) :
    (fault.isClientFault = true ∧
        ∀ a, a ≠ Register.batteryType.address → view w'.device a = view w.device a) ∨
      ∃ t, op.moment? = some t ∧ Misdated t fault := by
  rcases op.blames es fault hserved htells with hclient | hmisdated
  · refine .inl ⟨hclient, fun a ha => ?_⟩
    exact view_of_spares hview hanswered (Operation.spares_of_rejected htells hclient ha)
  · exact .inr hmisdated

end

lemma Registers.Answers.changesOnRequest {mayFail : Request → Prop} :
    ChangesOnRequest (Registers.Answers mayFail) id where
  spared {b r answer b' a} h hspared := by
    rw [h.change]
    cases answer with
    | ok data => exact written_of_not_reached hspared b
    | error fault => rfl

/-- A voltage that is too high, with a new battery type, for the registers of a sealed battery: the
fault lies in the request, and the type alone has changed. -/
theorem high_boost_of_request :
    let op := highBoost (some .userDefined)
    let played := play (World.serve (fun _ => false) 60000) World.sealed op.procedure.run
    Served played.1 ∧ ∃ fault, played.2.1 = .error fault ∧ fault.isClientFault = true ∧
      ∀ a, a ≠ Register.batteryType.address →
        played.2.2.device a = World.sealed.device a := by
  intro op played
  have hserved : Served played.1 := by decide +kernel
  have hrefused : isRefused played.2.1 = true := by decide +kernel
  obtain ⟨fault, hresult⟩ := isRefused_iff.mp hrefused
  obtain ⟨htells, hanswered⟩ : Tells op.procedure played.1 played.2.1 ∧
      Answered (World.Replies (Registers.Answers fun _ => False) 60000) World.sealed played.1
        played.2.2 :=
    play_ends (World.serve_all 60000) World.sealed op.procedure.run
  rw [hresult] at htells
  refine ⟨hserved, .refused fault, hresult, ?_⟩
  rcases fault_of_request Registers.Answers.changesOnRequest hanswered hserved htells with
    hblamed | ⟨t, ht, -⟩
  · exact hblamed
  · have hnone : op.moment? = none := rfl
    rw [hnone] at ht
    cases ht

/-- The first moment of a year before those that the clock counts. -/
def lastCentury : DateTime :=
  ⟨⟨1999, 1, 1, 0, 0, 0, 0⟩, by decide⟩

/-- Whether a result is a fault of the device or the link. -/
def blamesDevice {α : Type} : Except SettingsFault α → Bool
  | .error fault => !fault.isClientFault
  | .ok _ => false

/-- **The year is found out last, and blamed on the device.**  Every request was served, yet the
fault of an update with a moment of 1999 is not the client's, and the capacity that came with it has
been stored. -/
theorem misdated_update_blames_device :
    let op := Operation.updateConfig ⟨some lastCentury, none, some 150, none,
      ⟨fun _ => none, fun _ => none, fun _ => none⟩⟩
    let played := play (World.serve (fun _ => false) 60000) World.sample op.procedure.run
    Answered (World.Replies (Registers.Answers fun _ => False) 60000) World.sample played.1
        played.2.2 ∧
      Served played.1 ∧
      (∃ fault, Tells op.procedure played.1 (.error fault) ∧ fault.isClientFault = false) ∧
      World.sample.device Register.batteryCapacity.address = some 200 ∧
      played.2.2.device Register.batteryCapacity.address = some 150 := by
  intro op played
  obtain ⟨htells, hanswered⟩ := play_ends (World.serve_all 60000) World.sample op.procedure.run
  refine ⟨hanswered, by decide +kernel, ?_, by decide +kernel, by decide +kernel⟩
  have hblamed : blamesDevice played.2.1 = true := by decide +kernel
  cases hresult : played.2.1 with
  | ok v =>
      rw [hresult] at hblamed
      cases hblamed
  | error fault =>
      rw [hresult] at hblamed
      refine ⟨fault, ?_, by simpa [blamesDevice] using hblamed⟩
      rw [← hresult]
      exact htells

end Settings

end ChargeController
