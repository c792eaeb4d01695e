import ChargeController.Proofs.Settings.Updating

/-!
# The operations

Everything that can be asked of the configuration is one operation with its procedure.  The four
updates are brought into the form of stages here, each by one equation; what the stages guarantee
then holds of every operation.

* `Operation`, `Operation.procedure` — all requests about the configuration.
* **`Operation.refreshed`** — an operation offers to the cache only what it has just read.
* **`Operation.unsettled`** — an operation that leaves an accepted write unsettled has failed.
* **`Operation.succeeded`** — an update that has not failed had all its writes accepted.
-/

namespace ChargeController

open Settings

namespace Settings

variable {α : Type} {mayWrite : Register → Prop} {P : List Line → Prop}

/-! ## Parts of updates -/

def whenPresent (x : Option α) (f : α → Procedure Unit) : Procedure Unit :=
  match x with
  | some a => f a
  | none => return ()

/-- What is done for a field that is there throws no more than what is done. -/
lemma throws_whenPresent {F : SettingsFault → Prop} {x : Option α} {f : α → Procedure Unit}
    (h : ∀ a, x = some a → Throws F (f a)) : Throws F (whenPresent x f) := by
  cases x with
  | some a => exact h a rfl
  | none => exact .pure ()

lemma whenPresent_always (hP : Lasting P) (x : Option α) {f : α → Procedure Unit}
    (hf : ∀ a, Always P (f a)) : Always P (whenPresent x f) := by
  cases x with
  | some a => exact hf a
  | none => exact .pure hP _

lemma silent_whenPresent {x : Option α} {f : α → Procedure Unit} (hf : ∀ a, Silent (f a)) :
    Silent (whenPresent x f) := by
  cases x with
  | some a => exact hf a
  | none => exact silent_pure ()

/-- For a field that is there, it says what is done. -/
lemma tells_of_present {x : Option α} {f : α → Procedure Unit} {es : List Line}
    {result : Except SettingsFault Unit} (h : Tells (whenPresent x f) es result) {a : α}
    (ha : x = some a) : Tells (f a) es result := by
  subst ha
  exact h

/-- Storing: what went through was accepted throughout, and what failed has met a refusal, or the
accident has happened. -/
structure Storing (accident : Prop) (p : Procedure Unit) : Prop where
  accepted {es u} : Tells p es (.ok u) → ∀ e ∈ es, e.stores = true
  failed {es fault} : Tells p es (.error fault) → (∃ e ∈ es, Refusal e) ∨ accident

namespace Storing

variable {accident : Prop}

lemma done : Storing accident (pure ()) where
  accepted h e he := by
    obtain ⟨rfl, -⟩ := tells_pure.mp h
    simp at he
  failed h := by cases (tells_pure.mp h).2

lemma bind {p q : Procedure Unit} (hp : Storing accident p) (hq : Storing accident q) :
    Storing accident (do p; q) where
  accepted h e he := by
    obtain ⟨first, _, second, rfl, hfirst, hsecond⟩ := tells_bind_ok.mp h
    simp only [List.mem_append] at he
    rcases he with he | he
    · exact hp.accepted hfirst e he
    · exact hq.accepted hsecond e he
  failed h := by
    rcases tells_bind.mp h with ⟨fault, hfault, -⟩ | ⟨first, _, second, rfl, -, hsecond⟩
    · exact hp.failed hfault
    · rcases hq.failed hsecond with ⟨e, he, hrefusal⟩ | haccident
      · exact .inl ⟨e, List.mem_append_right _ he, hrefusal⟩
      · exact .inr haccident

lemma whenPresent {x : Option α} {f : α → Procedure Unit}
    (h : ∀ a, x = some a → Storing accident (f a)) : Storing accident (whenPresent x f) := by
  cases x with
  | some a => exact h a rfl
  | none => exact done

/-- A row of writes stores, and fails only where one of them is refused. -/
lemma writeAll (ws : List RegisterWrite) : Storing accident (writeAll ws) where
  accepted h e he := by
    obtain ⟨w, -, haccepts⟩ := (tells_writeAll_ok.mp h).accepts he
    exact haccepts.stores
  failed h := .inl (writeAll_refusal h)

lemma writeRegister (w : RegisterWrite) : Storing accident (writeRegister w) where
  accepted h e he := by
    rcases tells_writeRegister.mp h with ⟨e', haccepts, rfl, -⟩ | ⟨_, -, hok⟩
    · simp only [List.mem_singleton] at he
      subst he
      exact haccepts.stores
    · cases hok
  failed h := by
    rcases tells_writeRegister.mp h with ⟨_, -, -, hok⟩ | ⟨source, rfl, -⟩
    · cases hok
    · exact .inl ⟨_, List.mem_cons_self, rfl, rfl⟩

/-- A battery type is stored, if it has a code. -/
lemma storeBatteryType {t : BatteryType} (haccident : t.code? = none → accident) :
    Storing accident (storeBatteryType t) := by
  simp only [Settings.storeBatteryType]
  split
  · exact writeRegister _
  · next hnone =>
      exact { accepted := fun h => by cases (tells_throw.mp h).2
              failed := fun _ => .inr (haccident hnone) }

/-- A moment is stored, if the clock registers can hold it. -/
lemma storeClock {t : DateTime} (haccident : ¬ Encodes t → accident) :
    Storing accident (storeClock t) where
  accepted h e he := by
    rcases tells_storeClock h with ⟨r, data, hr, rfl, -⟩ | ⟨_, _, -, -, hok⟩ | ⟨_, -, -, hok⟩
    · simp only [List.mem_singleton] at he
      subst he
      obtain ⟨words, -, rfl⟩ := clockRequest_of_eq_some hr
      rfl
    · cases hok
    · cases hok
  failed h := by
    rcases tells_storeClock h with ⟨_, _, -, -, hok⟩ | ⟨r, source, hr, rfl, -⟩ |
      ⟨_, hencodes, -, -⟩
    · cases hok
    · obtain ⟨words, -, rfl⟩ := clockRequest_of_eq_some hr
      exact .inl ⟨_, List.mem_cons_self, rfl, rfl⟩
    · refine .inr (haccident fun hencoded => ?_)
      rw [← clockRequest?_isSome, hencodes] at hencoded
      cases hencoded

end Storing

/-! ## The stages of the updates -/

lemma accepted_of_quiet {p : Procedure Unit} (h : Always (fun es => ∀ e ∈ es, e.quiet = true) p)
    {es : List Line} {u : Unit} (htells : Tells p es (.ok u)) :
    ∀ e ∈ es, e.writes = true → e.stores = true := by
  intro e he hwrites
  rw [Exchange.writes_of_quiet (h _ _ htells e he)] at hwrites
  cases hwrites

/-- What comes before the writes of a charging update. -/
def prepareCharging (p : ChargingUpdate) : Procedure Unit := do
  requireUserDefined (← currentBatteryType)
  checkProposal p

/-- Before the writes, a charging update only consults the device. -/
lemma prepareCharging_always (hP : Consults P) (p : ChargingUpdate) :
    Always P (prepareCharging p) := by
  refine .bind hP.toLasting hP.currentBatteryType fun t => ?_
  exact .bind hP.toLasting ((silent_requireUserDefined t).always hP.toLasting) fun _ =>
    hP.checkProposal p

lemma prepareCharging_quiet (p : ChargingUpdate) :
    Always (fun es => ∀ e ∈ es, e.quiet = true) (prepareCharging p) :=
  prepareCharging_always quiet_consults p

lemma tells_prepareCharging_ok {p : ChargingUpdate} {es : List Line} {u : Unit}
    (h : Tells (prepareCharging p) es (.ok u)) :
    ∃ asked proposal, es = asked ++ proposal ∧ Tells currentBatteryType asked (.ok .userDefined) ∧
      Tells (checkProposal p) proposal (.ok u) := by
  obtain ⟨asked, t, rest, rfl, hasked, hrest⟩ := tells_bind_ok.mp h
  obtain ⟨silence, _, proposal, rfl, hsilence, hproposal⟩ := tells_bind_ok.mp hrest
  obtain ⟨rfl, rfl⟩ := tells_requireUserDefined_ok hsilence
  exact ⟨asked, proposal, rfl, hasked, hproposal⟩

def chargingStages (p : ChargingUpdate) : Stages ChargingParameters where
  prepare := prepareCharging p
  store := writeAll p.writes
  wrote := !p.writes.isEmpty
  what := "parameters"
  read := chargingParameters
  accident := False
  prepare_settled := (prepareCharging_quiet p).mono fun _ => not_unsettled_of_quiet
  prepare_accepted := accepted_of_quiet (prepareCharging_quiet p)
  store_accepted := (Storing.writeAll p.writes : Storing False _).accepted
  store_idle hwrote h := by
    have hnil : p.writes = [] := by simpa using hwrote
    rw [hnil] at h
    exact (tells_pure.mp h).1
  store_failed h _ := (Storing.writeAll p.writes).failed h
  read_quiet := quiet_consults.chargingParameters

lemma chargingStages_always (hP : Allows mayWrite P) {p : ChargingUpdate}
    (hp : ∀ w ∈ p.writes, mayWrite w.register) : Always P (chargingStages p).procedure := by
  refine .bind hP.toLasting (prepareCharging_always hP.toConsults p) fun _ => ?_
  refine .bind hP.toLasting (hP.writeAll hp) fun _ => ?_
  exact .bind hP.toLasting (hP.invalidateIf _) fun _ => hP.chargingParameters.confirm _

/-- A charging update is its stages, one after the other. -/
lemma updateCharging_eq (p : ChargingUpdate) :
    updateCharging p = (chargingStages p).procedure := by
  simp only [updateCharging, Stages.procedure, chargingStages, prepareCharging, bind_assoc]

/-- Refuses the unknown battery type. -/
def prepareProfile (p : ProfileUpdate) : Procedure Unit :=
  if p.batteryType = some .unknown then throw .unknownBatteryType else return ()

lemma silent_prepareProfile (p : ProfileUpdate) : Silent (prepareProfile p) := by
  simp only [prepareProfile]
  split
  · exact silent_throw _
  · exact silent_pure _

/-- The writes of a profile update. -/
def storeProfile (p : ProfileUpdate) : Procedure Unit := do
  whenPresent p.batteryType storeBatteryType
  whenPresent p.capacity fun capacity => writeRegister (RegisterWrite.ofCapacity capacity)

lemma code?_eq_none {t : BatteryType} : t.code? = none ↔ t = .unknown := by
  cases t <;> simp [BatteryType.code?]

lemma storing_storeProfile (p : ProfileUpdate) :
    Storing (p.batteryType = some .unknown) (storeProfile p) := by
  refine .bind (.whenPresent fun t ht => .storeBatteryType fun hcode => ?_)
    (.whenPresent fun capacity _ => .writeRegister _)
  rw [ht, code?_eq_none.mp hcode]

def profileStages (p : ProfileUpdate) : Stages BatteryProfile where
  prepare := prepareProfile p
  store := storeProfile p
  wrote := p.batteryType.isSome || p.capacity.isSome
  what := "profile"
  read := batteryProfile
  accident := False
  prepare_settled es result h := by
    rw [silent_prepareProfile p es result h]
    exact not_unsettled_of_quiet (by simp)
  prepare_accepted h e he := by
    rw [silent_prepareProfile p _ _ h] at he
    simp at he
  store_accepted := (storing_storeProfile p).accepted
  store_idle hwrote h := by
    rw [Bool.or_eq_false_iff, Option.isSome_eq_false_iff, Option.isSome_eq_false_iff,
      Option.isNone_iff_eq_none, Option.isNone_iff_eq_none] at hwrote
    rw [storeProfile, hwrote.1, hwrote.2] at h
    exact (tells_pure.mp h).1
  store_failed h hunsettled := by
    rcases (storing_storeProfile p).failed h with hrefusal | hunknown
    · exact .inl hrefusal
    · -- The unknown type is thrown out before anything is said.
      rw [storeProfile, hunknown] at h
      obtain ⟨rfl, -⟩ := tells_throw.mp h
      exact absurd hunsettled (not_unsettled_of_quiet (by simp))
  read_quiet := quiet_consults.batteryProfile

lemma profileStages_always (hP : Allows mayWrite P) (p : ProfileUpdate)
    (htype : mayWrite Register.batteryType) (hcapacity : mayWrite Register.batteryCapacity) :
    Always P (profileStages p).procedure := by
  refine .bind hP.toLasting ((silent_prepareProfile p).always hP.toLasting) fun _ => ?_
  refine .bind hP.toLasting ?_ fun _ => ?_
  · refine .bind hP.toLasting ?_ fun _ => ?_
    · exact whenPresent_always hP.toLasting _ (hP.storeBatteryType htype)
    · exact whenPresent_always hP.toLasting _ fun _ => hP.writeRegister _ hcapacity
  · exact .bind hP.toLasting (hP.invalidateIf _) fun _ => hP.batteryProfile.confirm _

/-- A profile update is its stages, after it has refused what it cannot store. -/
lemma updateProfile_eq (p : ProfileUpdate) : updateProfile p = (profileStages p).procedure := by
  show _ = (do
    prepareProfile p
    storeProfile p
    invalidateIf (p.batteryType.isSome || p.capacity.isSome)
    confirm "profile" batteryProfile)
  obtain ⟨t, capacity⟩ := p
  simp only [updateProfile, prepareProfile, storeProfile]
  by_cases hunknown : t = some .unknown
  · simp only [if_pos hunknown]
    rfl
  · simp only [if_neg hunknown]
    cases t <;> cases capacity <;> simp [whenPresent]

/-- What comes before the writes of a configuration update, the write of a battery type apart. -/
def prepareConfig (p : ConfigUpdate) : Procedure Unit := do
  whenPresent p.tempCompCoefficient fun coefficient => allowed (checkTempComp coefficient)
  updateBatteryType p
  checkCharging p

/-- The writes of a configuration update after those that prepare it. -/
def storeConfig (p : ConfigUpdate) : Procedure Unit := do
  writeAll (updateWrites p)
  whenPresent p.time storeClock

/-- To check charging parameters is to consult the device. -/
lemma checkCharging_always (hP : Consults P) (p : ConfigUpdate) : Always P (checkCharging p) := by
  simp only [checkCharging]
  split
  · have hchecks (t : BatteryType) :
        Always P (do requireUserDefined t; checkProposal p.charging) :=
      .bind hP.toLasting ((silent_requireUserDefined t).always hP.toLasting) fun _ =>
        hP.checkProposal p.charging
    split
    · exact hchecks _
    · exact .bind hP.toLasting hP.currentBatteryType hchecks
  · exact .pure hP.toLasting _

/-- What was said when charging parameters were not refused: nothing if the update has none, and
otherwise that the battery type is the user-defined one and that the proposal is in order. -/
lemma tells_checkCharging_ok {p : ConfigUpdate} {es : List Line} {u : Unit}
    (h : Tells (checkCharging p) es (.ok u)) (htouches : p.touchesCharging = true) :
    ∃ asked proposal, es = asked ++ proposal ∧ Tells (checkProposal p.charging) proposal (.ok u) ∧
      ((p.batteryType = some .userDefined ∧ asked = []) ∨
        (p.batteryType = none ∧ Tells currentBatteryType asked (.ok .userDefined))) := by
  simp only [checkCharging] at h
  rw [if_pos htouches] at h
  split at h
  · next t ht =>
      obtain ⟨given, t', rest, rfl, hgiven, hrest⟩ := tells_bind_ok.mp h
      obtain ⟨silence, _, proposal, rfl, hsilence, hproposal⟩ := tells_bind_ok.mp hrest
      obtain ⟨rfl, heq⟩ := tells_pure.mp hgiven
      obtain rfl := Except.ok.inj heq
      obtain ⟨rfl, rfl⟩ := tells_requireUserDefined_ok hsilence
      exact ⟨[], proposal, rfl, hproposal, .inl ⟨ht, rfl⟩⟩
  · next hnone =>
      obtain ⟨asked, t, rest, rfl, hasked, hrest⟩ := tells_bind_ok.mp h
      obtain ⟨silence, _, proposal, rfl, hsilence, hproposal⟩ := tells_bind_ok.mp hrest
      obtain ⟨rfl, rfl⟩ := tells_requireUserDefined_ok hsilence
      exact ⟨asked, proposal, rfl, hproposal, .inr ⟨hnone, hasked⟩⟩

/-- A battery type that an update stores is forgotten about at once. -/
lemma tells_updateBatteryType {p : ConfigUpdate} {es : List Line}
    {result : Except SettingsFault Unit} (h : Tells (updateBatteryType p) es result) :
    (p.batteryType = none ∧ es = [] ∧ result = .ok ()) ∨
    (∃ t code e, p.batteryType = some t ∧ t.code? = some code ∧
      Accepts ⟨Register.batteryType, code⟩ e ∧ es = [e, ⟨.forget, ()⟩] ∧ result = .ok ()) ∨
    ∃ t fault, p.batteryType = some t ∧ Tells (storeBatteryType t) es (.error fault) ∧
      result = .error fault := by
  simp only [updateBatteryType] at h
  split at h
  · next t ht =>
      rcases tells_bind.mp h with ⟨fault, hfault, rfl⟩ | ⟨stored, _, rest, rfl, hstored, hrest⟩
      · exact .inr (.inr ⟨t, fault, ht, hfault, rfl⟩)
      · rcases tells_storeBatteryType hstored with ⟨code, e, hcode, haccepts, rfl, -⟩ |
          ⟨_, _, -, -, hok⟩ | ⟨-, -, hok⟩
        · obtain ⟨⟨⟩, rfl, rfl⟩ := tells_ask.mp hrest
          exact .inr (.inl ⟨t, code, e, ht, hcode, haccepts, rfl, rfl⟩)
        · cases hok
        · cases hok
  · next hnone =>
      obtain ⟨rfl, rfl⟩ := tells_pure.mp h
      exact .inl ⟨hnone, rfl, rfl⟩

/-- A battery type whose storing fails was not stored. -/
lemma storeBatteryType_stores_nothing {t : BatteryType} {es : List Line} {fault : SettingsFault}
    (h : Tells (storeBatteryType t) es (.error fault)) : ∀ e ∈ es, e.stores = false := by
  rcases tells_storeBatteryType h with ⟨_, _, -, -, -, hok⟩ | ⟨_, _, -, rfl, -⟩ | ⟨-, rfl, -⟩
  · cases hok
  · simp [Exchange.stores]
  · simp

/-- What an update does for its battery type leaves nothing unsettled. -/
lemma updateBatteryType_settled (p : ConfigUpdate) :
    Always (fun es => ¬ Unsettled es) (updateBatteryType p) := by
  intro es result h
  rcases tells_updateBatteryType h with
    ⟨-, rfl, -⟩ | ⟨_, _, e, -, -, -, rfl, -⟩ | ⟨_, _, -, hfault, -⟩
  · exact not_unsettled_of_quiet (by simp)
  · rw [← List.singleton_append]
    intro hunsettled
    rcases unsettled_append.mp hunsettled with hunsettled | ⟨-, hnone⟩
    · exact not_unsettled_of_no_store (by simp [Exchange.stores]) hunsettled
    · cases hnone ⟨.forget, ()⟩ List.mem_cons_self
  · exact not_unsettled_of_no_store (storeBatteryType_stores_nothing hfault)

lemma prepareConfig_settled (p : ConfigUpdate) :
    Always (fun es => ¬ Unsettled es) (prepareConfig p) := by
  have hP : Lasting fun es => ¬ Unsettled es := {
    nil := not_unsettled_of_quiet (by simp)
    append := fun hes hes' hunsettled => by
      rcases unsettled_append.mp hunsettled with h | ⟨h, -⟩
      · exact hes' h
      · exact hes h }
  refine .bind hP ?_ fun _ => .bind hP (updateBatteryType_settled p) fun _ => ?_
  · exact (silent_whenPresent fun _ => silent_allowed _).always hP
  · exact (checkCharging_always quiet_consults p).mono fun _ => not_unsettled_of_quiet

/-- What was said before the writes of a configuration update: perhaps that a battery type was
stored and forgotten about, and then only what checking the charging parameters says. -/
lemma tells_prepareConfig_ok {p : ConfigUpdate} {es : List Line} {u : Unit}
    (h : Tells (prepareConfig p) es (.ok u)) :
    ∃ typed checked, es = typed ++ checked ∧ Tells (updateBatteryType p) typed (.ok ()) ∧
      Tells (checkCharging p) checked (.ok ()) := by
  obtain ⟨first, _, rest, rfl, hfirst, hrest⟩ := tells_bind_ok.mp h
  obtain ⟨typed, _, checked, rfl, htyped, hchecked⟩ := tells_bind_ok.mp hrest
  obtain rfl := silent_whenPresent (fun _ => silent_allowed _) _ _ hfirst
  exact ⟨typed, checked, rfl, htyped, hchecked⟩

/-- Whatever a configuration update writes while it prepares was accepted, if it goes on. -/
lemma prepareConfig_accepted {p : ConfigUpdate} {es : List Line} {u : Unit}
    (h : Tells (prepareConfig p) es (.ok u)) : ∀ e ∈ es, e.writes = true → e.stores = true := by
  obtain ⟨typed, checked, rfl, htyped, hchecked⟩ := tells_prepareConfig_ok h
  intro e he
  simp only [List.mem_append] at he
  rcases he with he | he
  · rcases tells_updateBatteryType htyped with ⟨-, rfl, -⟩ | ⟨_, _, _, -, -, haccepts, rfl, -⟩ |
      ⟨_, _, -, -, hok⟩
    · simp at he
    · simp only [List.mem_cons, List.not_mem_nil, or_false] at he
      rcases he with rfl | rfl
      · exact fun _ => haccepts.stores
      · exact id
    · cases hok
  · exact accepted_of_quiet (checkCharging_always quiet_consults p) hchecked e he

/-- That the clock registers cannot hold the moment of an update. -/
def ConfigUpdate.Unencodable (p : ConfigUpdate) : Prop :=
  ∃ t, p.time = some t ∧ ¬ Encodes t

lemma storing_storeConfig (p : ConfigUpdate) :
    Storing (ConfigUpdate.Unencodable p) (storeConfig p) := by
  refine .bind (.writeAll _) (.whenPresent fun t ht => .storeClock fun hencodes => ?_)
  exact ⟨t, ht, hencodes⟩

def configStages (p : ConfigUpdate) : Stages DeviceConfig where
  prepare := prepareConfig p
  store := storeConfig p
  wrote := !(updateWrites p).isEmpty || p.time.isSome
  what := "configuration"
  read := cachedConfig
  accident := ConfigUpdate.Unencodable p
  prepare_settled := prepareConfig_settled p
  prepare_accepted := prepareConfig_accepted
  store_accepted := (storing_storeConfig p).accepted
  store_idle hwrote h := by
    rw [Bool.or_eq_false_iff, Bool.not_eq_false', List.isEmpty_iff, Option.isSome_eq_false_iff,
      Option.isNone_iff_eq_none] at hwrote
    rw [storeConfig, hwrote.1, hwrote.2] at h
    exact (tells_pure.mp h).1
  store_failed h _ := (storing_storeConfig p).failed h
  read_quiet := quiet_consults.cached

lemma updateBatteryType_always (hP : Allows mayWrite P) (htype : mayWrite Register.batteryType)
    (p : ConfigUpdate) : Always P (updateBatteryType p) := by
  simp only [updateBatteryType]
  split
  · exact .bind hP.toLasting (hP.storeBatteryType htype _) fun _ => hP.invalidate
  · exact .pure hP.toLasting _

lemma prepareConfig_always (hP : Allows mayWrite P) (p : ConfigUpdate)
    (htype : mayWrite Register.batteryType) : Always P (prepareConfig p) := by
  refine .bind hP.toLasting ?_ fun _ => .bind hP.toLasting ?_ fun _ => ?_
  · exact (silent_whenPresent fun _ => silent_allowed _).always hP.toLasting
  · exact updateBatteryType_always hP htype p
  · exact checkCharging_always hP.toConsults p

lemma storeConfig_always (hP : Allows mayWrite P) {p : ConfigUpdate}
    (hp : ∀ w ∈ updateWrites p, mayWrite w.register) (hclock : mayWrite Register.deviceClock) :
    Always P (storeConfig p) := by
  refine .bind hP.toLasting (hP.writeAll hp) fun _ => ?_
  exact whenPresent_always hP.toLasting _ (hP.storeClock hclock)

/-- A configuration update writes its battery type, its own registers and the clock. -/
lemma configStages_always (hP : Allows mayWrite P) {p : ConfigUpdate}
    (htype : mayWrite Register.batteryType) (hp : ∀ w ∈ updateWrites p, mayWrite w.register)
    (hclock : mayWrite Register.deviceClock) : Always P (configStages p).procedure := by
  refine .bind hP.toLasting (prepareConfig_always hP p htype) fun _ => ?_
  refine .bind hP.toLasting (storeConfig_always hP hp hclock) fun _ => ?_
  exact .bind hP.toLasting (hP.invalidateIf _) fun _ => hP.cached.confirm _

/-- A configuration update is its stages, one after the other. -/
lemma updateConfig_eq (p : ConfigUpdate) : updateConfig p = (configStages p).procedure := by
  show _ = (do
    prepareConfig p
    storeConfig p
    invalidateIf (!(updateWrites p).isEmpty || p.time.isSome)
    confirm "configuration" cachedConfig)
  simp only [updateConfig, prepareConfig, storeConfig]
  cases p.tempCompCoefficient <;> cases p.time <;> simp [whenPresent]

lemma storing_storeClock (t : DateTime) : Storing (¬ Encodes t) (storeClock t) :=
  .storeClock id

def timeStages (t : DateTime) : Stages DateTime where
  prepare := return ()
  store := storeClock t
  wrote := true
  what := "time"
  read := currentTime
  accident := False
  prepare_settled es result h := by
    rw [silent_pure _ es result h]
    exact not_unsettled_of_quiet (by simp)
  prepare_accepted h e he := by
    rw [silent_pure _ _ _ h] at he
    simp at he
  store_accepted := (storing_storeClock t).accepted
  store_idle hwrote := by cases hwrote
  store_failed h hunsettled := by
    -- Nothing comes before the one write, so what failed has stored nothing.
    rcases tells_storeClock h with ⟨_, _, -, -, hok⟩ | ⟨r, source, hr, rfl, -⟩ | ⟨_, -, rfl, -⟩
    · cases hok
    · obtain ⟨words, -, rfl⟩ := clockRequest_of_eq_some hr
      exact .inl ⟨_, List.mem_cons_self, rfl, rfl⟩
    · exact absurd hunsettled (not_unsettled_of_quiet (by simp))
  read_quiet := quiet_consults.currentTime

lemma timeStages_always (hP : Allows mayWrite P) (hclock : mayWrite Register.deviceClock)
    (t : DateTime) : Always P (timeStages t).procedure := by
  refine .bind hP.toLasting (.pure hP.toLasting _) fun _ => ?_
  refine .bind hP.toLasting (hP.storeClock hclock t) fun _ => ?_
  exact .bind hP.toLasting (hP.invalidateIf _) fun _ => hP.currentTime.confirm _

/-! ## Operations -/

/-- What can be asked of the configuration. -/
inductive Operation where
  /-- Read the configuration from the device, whatever is cached. -/
  | readConfig
  | config
  | invalidate
  | profile
  | charging
  | time
  | updateConfig (p : ConfigUpdate)
  | updateProfile (p : ProfileUpdate)
  | updateCharging (p : ChargingUpdate)
  | setTime (t : DateTime)
  | query (table : UInt8) (address : String)

namespace Operation

def Value : Operation → Type
  | readConfig => DeviceConfig
  | config => DeviceConfig
  | invalidate => Unit
  | profile => BatteryProfile
  | charging => ChargingParameters
  | time => DateTime
  | updateConfig _ => Confirmation DeviceConfig
  | updateProfile _ => Confirmation BatteryProfile
  | updateCharging _ => Confirmation ChargingParameters
  | setTime _ => Confirmation DateTime
  | query _ _ => QueryResult

def procedure : (op : Operation) → Procedure op.Value
  | readConfig => Settings.readConfig
  | config => cachedConfig
  | invalidate => Settings.invalidate
  | profile => batteryProfile
  | charging => chargingParameters
  | time => currentTime
  | updateConfig p => Settings.updateConfig p
  | updateProfile p => Settings.updateProfile p
  | updateCharging p => Settings.updateCharging p
  | setTime t => Settings.setTime t
  | query table address => Settings.query table address

/-- That an operation has a moment to write that the clock registers cannot hold. -/
def Unencodable : Operation → Prop
  | updateConfig p => ConfigUpdate.Unencodable p
  | _ => False

/-- Whether an operation is to change something in the device. -/
def isUpdate : Operation → Bool
  | updateConfig _ => true
  | updateProfile _ => true
  | updateCharging _ => true
  | setTime _ => true
  | _ => false

/-- Whether an update has read the configuration back. -/
def isConfirmed : (op : Operation) → op.Value → Bool
  | updateConfig _, .confirmed _ => true
  | updateProfile _, .confirmed _ => true
  | updateCharging _, .confirmed _ => true
  | _, _ => false

/-- What an update that has read the configuration back says of it. -/
def Confirms : (op : Operation) → op.Value → DeviceConfig → Prop
  | updateConfig _, .confirmed value, c => value = c
  | updateProfile _, .confirmed value, c => value = c.profile
  | updateCharging _, .confirmed value, c => value = c.charging
  | _, _, _ => False

/-- An operation either has stages, or it only looks, or it only forgets. -/
lemma kinds {motive : (op : Operation) → Prop}
    (looks : ∀ op : Operation, (∀ {P}, Consults P → Always P op.procedure) →
      Throws (·.isWriting = false) op.procedure → op.isUpdate = false → motive op)
    (invalidate : motive .invalidate) (updateConfig : ∀ p, motive (.updateConfig p))
    (updateProfile : ∀ p, motive (.updateProfile p))
    (updateCharging : ∀ p, motive (.updateCharging p)) (setTime : ∀ t, motive (.setTime t))
    (op : Operation) : motive op := by
  have hreads {α : Type} {p : Procedure α} (h : Throws (·.isReading = true) p) :
      Throws (·.isWriting = false) p := h.mono fun _ => SettingsFault.isWriting_of_isReading
  cases op with
  | readConfig => exact looks _ (fun hP => hP.readConfig) (hreads throws_readConfig) rfl
  | config => exact looks _ (fun hP => hP.cached) (hreads throws_cachedConfig) rfl
  | invalidate => exact invalidate
  | profile =>
      exact looks _ (fun hP => hP.batteryProfile) (hreads throws_batteryProfile) rfl
  | charging =>
      exact looks _ (fun hP => hP.chargingParameters) (hreads throws_chargingParameters) rfl
  | time => exact looks _ (fun hP => hP.currentTime) (hreads throws_currentTime) rfl
  | updateConfig p => exact updateConfig p
  | updateProfile p => exact updateProfile p
  | updateCharging p => exact updateCharging p
  | setTime t => exact setTime t
  | query table address =>
      exact looks _ (fun hP => hP.query table address) (throws_query table address) rfl

lemma isConfirmed_of_looks {op : Operation} (hop : op.isUpdate = false) (v : op.Value) :
    op.isConfirmed v = false := by
  cases op with
  | updateConfig p => cases hop
  | updateProfile p => cases hop
  | updateCharging p => cases hop
  | _ => rfl

/-- The registers that an operation may write. -/
inductive MayWrite : Operation → Register → Prop
  | configType {p} : MayWrite (updateConfig p) Register.batteryType
  | configWord {p w} : w ∈ updateWrites p → MayWrite (updateConfig p) w.register
  | configClock {p} : MayWrite (updateConfig p) Register.deviceClock
  | profileType {p} : MayWrite (updateProfile p) Register.batteryType
  | profileCapacity {p} : MayWrite (updateProfile p) Register.batteryCapacity
  | charging {p w} : w ∈ p.writes → MayWrite (updateCharging p) w.register
  | clock {t} : MayWrite (setTime t) Register.deviceClock

/-- **An operation writes only its own registers**: what no line breaks that writes one of them
holds of every account. -/
theorem always {op : Operation} (hP : Allows mayWrite P)
    (hop : ∀ r, op.MayWrite r → mayWrite r) : Always P op.procedure := by
  induction op using kinds with
  | looks op h _ _ => exact h hP.toConsults
  | invalidate => exact hP.invalidate
  | updateConfig p =>
      show Always P (Settings.updateConfig p)
      rw [updateConfig_eq]
      exact configStages_always hP (hop _ .configType) (fun w hw => hop _ (.configWord hw))
        (hop _ .configClock)
  | updateProfile p =>
      show Always P (Settings.updateProfile p)
      rw [updateProfile_eq]
      exact profileStages_always hP p (hop _ .profileType) (hop _ .profileCapacity)
  | updateCharging p =>
      show Always P (Settings.updateCharging p)
      rw [updateCharging_eq]
      exact chargingStages_always hP fun w hw => hop _ (.charging hw)
  | setTime t => exact timeStages_always hP (hop _ .clock) t

/-- **An operation offers to the cache only what it has just read.** -/
theorem refreshed (op : Operation) : Always Refreshed op.procedure :=
  always refreshed_allows fun _ _ => trivial

/-- **An operation that leaves an accepted write unsettled has failed**, because a write was refused
or because the clock registers cannot hold the moment that was still to be written. -/
theorem unsettled {op : Operation} {es : List Line} {result : Except SettingsFault op.Value}
    (h : Tells op.procedure es result) (hunsettled : Unsettled es) :
    (∃ fault, result = .error fault) ∧ ((∃ e ∈ es, Refusal e) ∨ op.Unencodable) := by
  induction op using kinds with
  | looks op hlooks _ _ =>
      exact absurd hunsettled (not_unsettled_of_quiet (hlooks quiet_consults _ _ h))
  | invalidate =>
      obtain ⟨⟨⟩, rfl, -⟩ := tells_ask.mp h
      exact absurd hunsettled (not_unsettled_of_no_store (by simp [Exchange.stores]))
  | updateConfig p =>
      change Tells (Settings.updateConfig p) es result at h
      rw [updateConfig_eq] at h
      exact Stages.settled h hunsettled
  | updateProfile p =>
      change Tells (Settings.updateProfile p) es result at h
      rw [updateProfile_eq] at h
      obtain ⟨hfault, hcause⟩ := Stages.settled h hunsettled
      exact ⟨hfault, hcause.imp_right False.elim⟩
  | updateCharging p =>
      change Tells (Settings.updateCharging p) es result at h
      rw [updateCharging_eq] at h
      obtain ⟨hfault, hcause⟩ := Stages.settled h hunsettled
      exact ⟨hfault, hcause.imp_right False.elim⟩
  | setTime t =>
      obtain ⟨hfault, hcause⟩ := Stages.settled (s := timeStages t) h hunsettled
      exact ⟨hfault, hcause.imp_right False.elim⟩

/-- **An update that has not failed had all its writes accepted**, and what it confirms it has
found as the cached configuration, at its very end. -/
theorem succeeded {op : Operation} {es : List Line} {v : op.Value}
    (h : Tells op.procedure es (.ok v)) :
    (∀ e ∈ es, e.writes = true → e.stores = true) ∧
      ∃ front back, es = front ++ back ∧ (∀ e ∈ back, e.forgets = false) ∧
        (op.isConfirmed v = true → ∃ c, op.Confirms v c ∧ Tells cachedConfig back (.ok c)) := by
  -- What reads back an update neither writes nor forgets.
  have hback {α : Type} {s : Stages α} {back : List Line} {c : Confirmation α}
      (h : Tells (confirm s.what s.read) back (.ok c)) : ∀ e ∈ back, e.forgets = false :=
    fun e he => Exchange.forgets_of_quiet (s.read_quiet.confirm s.what _ _ h e he)
  induction op using kinds with
  | looks op hlooks _ hop =>
      have hquiet := hlooks quiet_consults _ _ h
      refine ⟨fun e he hwrites => ?_, [], es, rfl, fun e he => ?_, fun hconfirmed => ?_⟩
      · rw [Exchange.writes_of_quiet (hquiet e he)] at hwrites
        cases hwrites
      · exact Exchange.forgets_of_quiet (hquiet e he)
      · rw [isConfirmed_of_looks hop] at hconfirmed
        cases hconfirmed
  | invalidate =>
      obtain ⟨⟨⟩, rfl, -⟩ := tells_ask.mp h
      exact ⟨by simp [Exchange.writes], _, [], (List.append_nil _).symm, by simp,
        fun hconfirmed => by cases hconfirmed⟩
  | updateConfig p =>
      change Tells (Settings.updateConfig p) es (.ok v) at h
      rw [updateConfig_eq] at h
      obtain ⟨haccepted, front, back, rfl, hconfirm⟩ := Stages.succeeded h
      refine ⟨haccepted, front, back, rfl, hback hconfirm, fun hconfirmed => ?_⟩
      cases v with
      | confirmed c => exact ⟨c, rfl, tells_of_confirmed hconfirm⟩
      | unconfirmed what => cases hconfirmed
  | updateProfile p =>
      change Tells (Settings.updateProfile p) es (.ok v) at h
      rw [updateProfile_eq] at h
      obtain ⟨haccepted, front, back, rfl, hconfirm⟩ := Stages.succeeded h
      refine ⟨haccepted, front, back, rfl, hback hconfirm, fun hconfirmed => ?_⟩
      cases v with
      | confirmed profile =>
          obtain ⟨c, hc, rfl⟩ := tells_batteryProfile_ok.mp (tells_of_confirmed hconfirm)
          exact ⟨c, rfl, hc⟩
      | unconfirmed what => cases hconfirmed
  | updateCharging p =>
      change Tells (Settings.updateCharging p) es (.ok v) at h
      rw [updateCharging_eq] at h
      obtain ⟨haccepted, front, back, rfl, hconfirm⟩ := Stages.succeeded h
      refine ⟨haccepted, front, back, rfl, hback hconfirm, fun hconfirmed => ?_⟩
      cases v with
      | confirmed params =>
          obtain ⟨c, hc, rfl⟩ := tells_chargingParameters_ok.mp (tells_of_confirmed hconfirm)
          exact ⟨c, rfl, hc⟩
      | unconfirmed what => cases hconfirmed
  | setTime t =>
      obtain ⟨haccepted, front, back, rfl, hconfirm⟩ := Stages.succeeded (s := timeStages t) h
      refine ⟨haccepted, front, back, rfl, hback hconfirm, fun hconfirmed => ?_⟩
      cases v <;> cases hconfirmed

end Operation

end Settings

end ChargeController
