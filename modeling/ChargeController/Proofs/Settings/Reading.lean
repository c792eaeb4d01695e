import ChargeController.Proofs.Bus.Rows
import ChargeController.Proofs.Settings.Account

/-!
# Accounts of reading

A configuration is read in six blocks, and the account of a successful reading is determined by
the bytes of these blocks.  A look into the cache has one of three accounts: something fresh was
found; or nothing fresh, and the reading failed; or nothing fresh, and what was read was offered to
the cache at once, under the generation that the look-up found.

* `Block`, `readout` — the six blocks, and the lines of a successful reading.
* **`tells_readConfig_ok`** — a successful reading is a readout.
* **`tells_cachedConfig`** — the three accounts of the cached configuration.
* **`refreshed_consults`** — whatever is offered to the cache was read just before.
* **`quiet_consults`** — no look at the configuration changes registers or generation.
-/

namespace ChargeController

open Settings

namespace Settings

variable {α β : Type} {P : List Line → Prop}

/-! ## Single steps -/

/-- A read of a register is one request, and fails only if that does. -/
lemma tells_readRegister {r : Register} {es : List Line} {result : Except SettingsFault Bytes} :
    Tells (readRegister r) es result ↔
      (∃ data, es = [⟨.send r.readRequest, .ok data⟩] ∧ result = .ok data) ∨
        ∃ source, es = [⟨.send r.readRequest, .error source⟩] ∧
          result = .error (.read r.name r.address source) := by
  constructor
  · intro h
    rcases tells_bind.mp h with ⟨fault, hfault, rfl⟩ | ⟨first, answer, second, rfl, hsend, hrest⟩
    · obtain ⟨_, _, hok⟩ := tells_ask.mp hfault
      cases hok
    · obtain ⟨reply, rfl, hreply⟩ := tells_ask.mp hsend
      obtain rfl := Except.ok.inj hreply
      cases answer with
      | ok data =>
          obtain ⟨rfl, rfl⟩ := tells_pure.mp hrest
          exact .inl ⟨data, rfl, rfl⟩
      | error source =>
          obtain ⟨rfl, rfl⟩ := tells_throw.mp hrest
          exact .inr ⟨source, rfl, rfl⟩
  · rintro (⟨data, rfl, rfl⟩ | ⟨source, rfl, rfl⟩)
    · exact .ask (.stay _)
    · exact .ask (.stay _)

lemma tells_readRegister_ok {r : Register} {es : List Line} {data : Bytes} :
    Tells (readRegister r) es (.ok data) ↔ es = [⟨.send r.readRequest, .ok data⟩] := by
  rw [tells_readRegister]
  constructor
  · rintro (⟨data', rfl, hdata⟩ | ⟨source, -, hsource⟩)
    · obtain rfl := Except.ok.inj hdata
      rfl
    · cases hsource
  · rintro rfl
    exact .inl ⟨data, rfl, rfl⟩

/-- Making sense of bytes asks nothing. -/
lemma tells_decoded {r : Register} {x : Except RegisterFault α} {es : List Line}
    {result : Except SettingsFault α} :
    Tells (decoded r x) es result ↔
      es = [] ∧ result = x.mapError fun source => .decode r.name r.address source := by
  cases x with
  | ok a => exact tells_pure
  | error source => exact tells_throw

lemma tells_decoded_ok {r : Register} {x : Except RegisterFault α} {es : List Line} {a : α} :
    Tells (decoded r x) es (.ok a) ↔ es = [] ∧ x = .ok a := by
  cases x with
  | ok b =>
      show Tells (pure b) es (.ok a) ↔ _
      simp [tells_pure, eq_comm]
  | error source =>
      show Tells (throw (.decode r.name r.address source)) es (.ok a) ↔ _
      simp [tells_throw]

/-- A procedure that asks nothing. -/
def Silent (p : Procedure α) : Prop :=
  ∀ es result, Tells p es result → es = []

/-- Of a silent procedure everything lasting holds. -/
lemma Silent.always {p : Procedure α} (h : Silent p) (hP : Lasting P) : Always P p := by
  intro es result htells
  rw [h es result htells]
  exact hP.nil

lemma silent_pure (a : α) : Silent (pure a : Procedure α) :=
  fun _ _ h => (tells_pure.mp h).1

lemma silent_throw (fault : SettingsFault) : Silent (throw fault : Procedure α) :=
  fun _ _ h => (tells_throw.mp h).1

lemma silent_decoded (r : Register) (x : Except RegisterFault α) : Silent (decoded r x) :=
  fun _ _ h => (tells_decoded.mp h).1

lemma silent_clockTime (data : Bytes) : Silent (clockTime data) := by
  simp only [clockTime]
  split
  · exact silent_pure _
  · exact silent_pure _
  · exact silent_throw _

lemma silent_allowed (check : Except ParameterFault Unit) : Silent (allowed check) := by
  simp only [allowed]
  split
  · exact silent_pure _
  · exact silent_throw _

/-- A check that lets something pass was passed. -/
lemma tells_allowed_ok {check : Except ParameterFault Unit} {es : List Line} {u : Unit} :
    Tells (allowed check) es (.ok u) ↔ es = [] ∧ check = .ok () := by
  cases check with
  | ok _ => exact tells_pure.trans (by simp)
  | error fault => exact tells_throw.trans (by simp)

/-- Only the user-defined battery type is let pass. -/
lemma tells_requireUserDefined {t : BatteryType} {es : List Line}
    {result : Except SettingsFault Unit} :
    Tells (requireUserDefined t) es result ↔
      es = [] ∧ ((t = .userDefined ∧ result = .ok ()) ∨
        (t ≠ .userDefined ∧ result = .error (.notUserDefined t))) := by
  simp only [requireUserDefined, BatteryType.isUserDefined, beq_iff_eq]
  split
  · next heq => simp [tells_pure, heq]
  · next hne => simp [tells_throw, hne]

lemma silent_requireUserDefined (t : BatteryType) : Silent (requireUserDefined t) :=
  fun _ _ h => (tells_requireUserDefined.mp h).1

lemma tells_requireUserDefined_ok {t : BatteryType} {es : List Line} {u : Unit}
    (h : Tells (requireUserDefined t) es (.ok u)) : es = [] ∧ t = .userDefined := by
  obtain ⟨hsilent, ⟨htype, -⟩ | ⟨-, hok⟩⟩ := tells_requireUserDefined.mp h
  · exact ⟨hsilent, htype⟩
  · cases hok

/-! ## Reading the configuration -/

/-- The blocks of a configuration. -/
inductive Block where
  | battery
  | clock
  | thresholds
  | cycle
  | durations
  | limits
deriving DecidableEq

namespace Block

/-- In the order in which they are read. -/
instance : Listed Block where
  all := [battery, clock, thresholds, cycle, durations, limits]
  mem_all a := by cases a <;> decide

def register : Block → Register
  | battery => Register.batterySettings
  | clock => Register.deviceClock
  | thresholds => Register.voltageThresholds
  | cycle => Register.equalizationCycle
  | durations => Register.chargeDurations
  | limits => Register.temperatureLimits

/-- The line in which a block was read. -/
def line (b : Block) (data : Bytes) : Line :=
  ⟨.send b.register.readRequest, .ok data⟩

end Block

/-- The lines in which all blocks were read. -/
def readout (data : Block → Bytes) : List Line :=
  (Listed.all : List Block).map fun b => b.line (data b)

/-- A configuration is what the blocks with these bytes are understood as. -/
def Makes (data : Block → Bytes) (c : DeviceConfig) : Prop :=
  Tells readConfig (readout data) (.ok c)

/-- The lines of a readout say what each block held. -/
lemma readout_injective {data data' : Block → Bytes} (h : readout data = readout data') :
    data = data' := by
  have heq := List.map_inj_left.mp h
  funext b
  have hline := Exchange.mk.inj (heq b (Listed.mem_all b))
  exact Except.ok.inj (eq_of_heq hline.2)

/-- No two blocks are read by the same request. -/
lemma Block.ext {block block' : Block}
    (h : block.register.readRequest = block'.register.readRequest) : block = block' := by
  revert block block'
  decide

/-- The answer to the read of a block is the block's bytes. -/
lemma answer_of_mem_readout {data : Block → Bytes} {block : Block} {answer : Answer}
    (h : (⟨.send block.register.readRequest, answer⟩ : Line) ∈ readout data) :
    answer = .ok (data block) := by
  obtain ⟨block', -, hline⟩ := List.mem_map.mp h
  obtain ⟨hquestion, hreply⟩ := Exchange.mk.inj hline
  obtain rfl := Block.ext (Ask.send.inj hquestion)
  exact (eq_of_heq hreply).symm

/-- The charging parameters that the blocks with these bytes are understood as. -/
structure Understood (data : Block → Bytes) (p : ChargingParameters) : Prop where
  threshold : ∃ volts, Register.readScaledRow 12 (data .thresholds) = .ok volts ∧
    p.threshold = fun x => valueAt volts Register.voltageThresholds x.register
  cycle : ∃ cycle, Register.readWord "int" (data .cycle) = .ok cycle ∧
    p.period .equalizationCycle = cycle
  durations : ∃ durations, Register.readWords "ints" 2 (data .durations) = .ok durations ∧
    p.period .equalization = durations.getD 0 0 ∧ p.period .boost = durations.getD 1 0
  limit : ∃ limits, Register.readSignedScaledRow 4 (data .limits) = .ok limits ∧
    p.limit = fun x => valueAt limits Register.temperatureLimits x.register

/-- A successful reading has the lines of a readout, and its blocks make the charging parameters. -/
lemma readConfig_account {es : List Line} {c : DeviceConfig} (h : Tells readConfig es (.ok c)) :
    ∃ data, es = readout data ∧ Understood data c.charging := by
  obtain ⟨_, battery, es, rfl, hbattery, h⟩ := tells_bind_ok.mp h
  obtain ⟨_, _, es, rfl, hidentity, h⟩ := tells_bind_ok.mp h
  obtain ⟨_, _, es, rfl, htempComp, h⟩ := tells_bind_ok.mp h
  obtain ⟨_, clock, es, rfl, hclock, h⟩ := tells_bind_ok.mp h
  obtain ⟨_, _, es, rfl, htime, h⟩ := tells_bind_ok.mp h
  obtain ⟨_, thresholds, es, rfl, hthresholds, h⟩ := tells_bind_ok.mp h
  obtain ⟨_, volts, es, rfl, hvolts, h⟩ := tells_bind_ok.mp h
  obtain ⟨_, cycle, es, rfl, hcycle, h⟩ := tells_bind_ok.mp h
  obtain ⟨_, _, es, rfl, hdays, h⟩ := tells_bind_ok.mp h
  obtain ⟨_, durations, es, rfl, hdurations, h⟩ := tells_bind_ok.mp h
  obtain ⟨_, _, es, rfl, hminutes, h⟩ := tells_bind_ok.mp h
  obtain ⟨_, limits, es, rfl, hlimits, h⟩ := tells_bind_ok.mp h
  obtain ⟨_, _, es, rfl, hcelsius, h⟩ := tells_bind_ok.mp h
  obtain ⟨rfl, hc⟩ := tells_pure.mp h
  obtain rfl := Except.ok.inj hc
  obtain rfl := tells_readRegister_ok.mp hbattery
  obtain rfl := tells_readRegister_ok.mp hclock
  obtain rfl := tells_readRegister_ok.mp hthresholds
  obtain rfl := tells_readRegister_ok.mp hcycle
  obtain rfl := tells_readRegister_ok.mp hdurations
  obtain rfl := tells_readRegister_ok.mp hlimits
  obtain rfl := silent_decoded _ _ _ _ hidentity
  obtain rfl := silent_decoded _ _ _ _ htempComp
  obtain rfl := silent_clockTime _ _ _ htime
  obtain ⟨rfl, hvoltRow⟩ := tells_decoded_ok.mp hvolts
  obtain ⟨rfl, hdayWord⟩ := tells_decoded_ok.mp hdays
  obtain ⟨rfl, hminuteRow⟩ := tells_decoded_ok.mp hminutes
  obtain ⟨rfl, hcelsiusRow⟩ := tells_decoded_ok.mp hcelsius
  refine ⟨fun
    | .battery => battery
    | .clock => clock
    | .thresholds => thresholds
    | .cycle => cycle
    | .durations => durations
    | .limits => limits, rfl, ?_⟩
  exact ⟨⟨_, hvoltRow, rfl⟩, ⟨_, hdayWord, rfl⟩, ⟨_, hminuteRow, rfl, rfl⟩, ⟨_, hcelsiusRow, rfl⟩⟩

/-- **A successful reading says what each of the six blocks held.** -/
theorem tells_readConfig_ok {es : List Line} {c : DeviceConfig} :
    Tells readConfig es (.ok c) ↔ ∃ data, es = readout data ∧ Makes data c := by
  constructor
  · intro h
    obtain ⟨data, rfl, -⟩ := readConfig_account h
    exact ⟨data, rfl, h⟩
  · rintro ⟨data, rfl, hmakes⟩
    exact hmakes

/-- So the charging parameters of a configuration are what its blocks are understood as. -/
lemma Makes.understood {data : Block → Bytes} {c : DeviceConfig} (h : Makes data c) :
    Understood data c.charging := by
  obtain ⟨data', heq, hunderstood⟩ := readConfig_account h
  obtain rfl := readout_injective heq
  exact hunderstood

/-! ## Facts about every reading -/

/-- Reading the configuration is nothing but reading blocks and making sense of their bytes, one
after the other. -/
lemma readConfig_built {M : {α : Type} → Procedure α → Prop}
    (bind : ∀ {α β : Type} {p : Procedure α} {f : α → Procedure β}, M p → (∀ a, M (f a)) →
      M (p >>= f))
    (pure : ∀ {α : Type} (a : α), M (pure a)) (read : ∀ b : Block, M (readRegister b.register))
    (decoded : ∀ {α : Type} (r : Register) (x : Except RegisterFault α), M (decoded r x))
    (clock : ∀ data, M (clockTime data)) : M readConfig := by
  refine bind (read .battery) fun _ => ?_
  refine bind (decoded _ _) fun _ => ?_
  refine bind (decoded _ _) fun _ => ?_
  refine bind (read .clock) fun _ => ?_
  refine bind (clock _) fun _ => ?_
  refine bind (read .thresholds) fun _ => ?_
  refine bind (decoded _ _) fun _ => ?_
  refine bind (read .cycle) fun _ => ?_
  refine bind (decoded _ _) fun _ => ?_
  refine bind (read .durations) fun _ => ?_
  refine bind (decoded _ _) fun _ => ?_
  refine bind (read .limits) fun _ => ?_
  refine bind (decoded _ _) fun _ => ?_
  exact pure _

/-- A fact about accounts that no read breaks. -/
structure Reads (P : List Line → Prop) : Prop extends Lasting P where
  read (table a q answer) : P [⟨.send (.read table a q), answer⟩]

/-- A fact about accounts that no look at the configuration breaks. -/
structure Consults (P : List Line → Prop) : Prop extends Reads P where
  cached : Always P cachedConfig

namespace Reads

lemma readRegister (hP : Reads P) (r : Register) : Always P (readRegister r) := by
  intro es result h
  rcases tells_readRegister.mp h with ⟨data, rfl, -⟩ | ⟨source, rfl, -⟩
  · exact hP.read ..
  · exact hP.read ..

/-- A reading of the configuration is nothing but reads. -/
lemma readConfig (hP : Reads P) : Always P readConfig := by
  have hsilent {α : Type} {p : Procedure α} (h : Silent p) : Always P p := h.always hP.toLasting
  refine readConfig_built (M := Always P) (.bind hP.toLasting) (.pure hP.toLasting)
    (fun b => hP.readRegister b.register) (fun r x => hsilent (silent_decoded r x)) fun data => ?_
  exact hsilent (silent_clockTime data)

lemma currentBatteryType (hP : Reads P) : Always P currentBatteryType := by
  refine .bind hP.toLasting (hP.readRegister _) fun data => ?_
  refine .bind hP.toLasting ((silent_decoded _ _).always hP.toLasting) fun code => ?_
  exact .pure hP.toLasting _

lemma currentTime (hP : Reads P) : Always P currentTime :=
  .bind hP.toLasting (hP.readRegister _) fun _ => (silent_decoded _ _).always hP.toLasting

/-- A query is one read at most. -/
lemma query (hP : Reads P) (code : UInt8) (address : String) : Always P (query code address) := by
  simp only [Settings.query]
  split
  · exact .throw hP.toLasting _
  · exact .throw hP.toLasting _
  · refine .bind hP.toLasting (.ask fun answer => hP.read ..) fun answer => ?_
    split
    · exact .throw hP.toLasting _
    · split
      · exact .throw hP.toLasting _
      · exact .pure hP.toLasting _

end Reads

/-! ## Faults of reading -/

/-- A read can fail only as reads do. -/
lemma throws_readRegister (r : Register) : Throws (·.isReading = true) (readRegister r) := by
  intro es fault h
  rcases tells_readRegister.mp h with ⟨_, -, hok⟩ | ⟨source, -, hfault⟩
  · cases hok
  · obtain rfl := Except.error.inj hfault
    rfl

lemma throws_decoded (r : Register) (x : Except RegisterFault α) :
    Throws (·.isReading = true) (decoded r x) := by
  cases x with
  | ok a => exact .pure a
  | error source => exact .throw rfl

lemma throws_clockTime (data : Bytes) : Throws (·.isReading = true) (clockTime data) := by
  simp only [clockTime]
  split
  · exact .pure _
  · exact .pure _
  · exact .throw rfl

/-- So can a reading of the configuration. -/
lemma throws_readConfig : Throws (·.isReading = true) readConfig :=
  readConfig_built (M := Throws (·.isReading = true)) .bind .pure
    (fun b => throws_readRegister b.register) throws_decoded throws_clockTime

lemma throws_currentBatteryType : Throws (·.isReading = true) currentBatteryType :=
  .bind (throws_readRegister _) fun _ => .bind (throws_decoded _ _) fun _ => .pure _

lemma throws_currentTime : Throws (·.isReading = true) currentTime :=
  .bind (throws_readRegister _) fun _ => throws_decoded _ _

/-- A query can also fail because of what was asked for, but not as a write. -/
lemma throws_query (code : UInt8) (address : String) :
    Throws (·.isWriting = false) (query code address) := by
  simp only [query]
  split
  · exact .throw rfl
  · exact .throw rfl
  · refine .bind (.ask _) fun answer => ?_
    split
    · exact .throw rfl
    · split
      · exact .throw rfl
      · exact .pure _

/-! ## The cached configuration -/

/-- **The three accounts of the cached configuration.** -/
theorem tells_cachedConfig {es : List Line} {result : Except SettingsFault DeviceConfig} :
    Tells cachedConfig es result ↔
      (∃ c, es = [⟨.lookUp, .fresh c⟩] ∧ result = .ok c) ∨
      (∃ g reads fault, es = ⟨.lookUp, .stale g⟩ :: reads ∧
        Tells readConfig reads (.error fault) ∧ result = .error fault) ∨
      ∃ g reads c, es = ⟨.lookUp, .stale g⟩ :: (reads ++ [⟨.keep g c, ()⟩]) ∧
        Tells readConfig reads (.ok c) ∧ result = .ok c := by
  constructor
  · intro h
    obtain ⟨found, rest, rfl, hrest⟩ := Dialogue.ends_ask.mp h
    cases found with
    | fresh c =>
        obtain ⟨rfl, rfl⟩ := tells_pure.mp hrest
        exact .inl ⟨c, rfl, rfl⟩
    | stale g =>
        refine .inr ?_
        rcases tells_bind.mp hrest with ⟨fault, hfault, rfl⟩ | ⟨reads, c, rest, rfl, hreads, hrest⟩
        · exact .inl ⟨g, rest, fault, rfl, hfault, rfl⟩
        · obtain ⟨⟨⟩, last, rfl, hlast⟩ := Dialogue.ends_ask.mp hrest
          obtain ⟨rfl, rfl⟩ := tells_pure.mp hlast
          exact .inr ⟨g, reads, c, rfl, hreads, rfl⟩
  · rintro (⟨c, rfl, rfl⟩ | ⟨g, reads, fault, rfl, hfault, rfl⟩ | ⟨g, reads, c, rfl, hreads, rfl⟩)
    · exact .ask (.stay _)
    · exact .ask (tells_bind.mpr (.inl ⟨fault, hfault, rfl⟩))
    · exact .ask (tells_bind_ok.mpr ⟨reads, c, _, rfl, hreads, .ask (.stay _)⟩)

/-- The cached configuration can fail only as a reading can. -/
lemma throws_cachedConfig : Throws (·.isReading = true) cachedConfig := by
  intro es fault h
  rcases tells_cachedConfig.mp h with ⟨_, -, hok⟩ | ⟨_, reads, fault', -, hreads, hfault⟩ |
    ⟨_, _, _, -, -, hok⟩
  · cases hok
  · obtain rfl := Except.error.inj hfault
    exact throws_readConfig _ _ hreads
  · cases hok

/-- Whatever is offered to the cache was read just before, after a look into the cache found the
generation under which it is offered. -/
def Refreshed (es : List Line) : Prop :=
  ∀ before g c after, es = before ++ ⟨.keep g c, ()⟩ :: after →
    ∃ earlier reads, before = earlier ++ ⟨.lookUp, .stale g⟩ :: reads ∧
      Tells readConfig reads (.ok c)

/-- What offers nothing to the cache is refreshed. -/
lemma refreshed_of_no_keep {es : List Line} (h : ∀ e ∈ es, e.keeps = false) : Refreshed es := by
  rintro before g c after rfl
  cases h _ (List.mem_append_cons_self)

lemma Refreshed.lasting : Lasting Refreshed where
  nil := refreshed_of_no_keep fun _ he => absurd he List.not_mem_nil
  append {es es'} hes hes' before g c after heq := by
    rcases append_eq_append_cons.mp heq with ⟨rest, rfl, -⟩ | ⟨rest, rfl, rfl⟩
    · exact hes before g c rest rfl
    · obtain ⟨earlier, reads, rfl, hreads⟩ := hes' rest g c after rfl
      exact ⟨es ++ earlier, reads, by rw [List.append_assoc], hreads⟩

/-- An account that is refreshed was so from the beginning. -/
lemma Refreshed.begun {es es' : List Line} (h : Refreshed (es ++ es')) : Refreshed es := by
  rintro before g c after rfl
  exact h before g c (after ++ es') (by rw [List.append_assoc, List.cons_append])

/-- A reading of the configuration offers nothing to the cache. -/
lemma readConfig_keeps_nothing : Always (fun es => ∀ e ∈ es, e.keeps = false) readConfig := by
  refine Reads.readConfig { toLasting := .lines _, read := ?_ }
  intro table a q answer e he
  simp only [List.mem_singleton] at he
  subst he
  rfl

/-- **Every look at the configuration is refreshed.** -/
theorem refreshed_consults : Consults Refreshed where
  toLasting := Refreshed.lasting
  read table a q answer := by
    apply refreshed_of_no_keep
    intro e he
    simp only [List.mem_singleton] at he
    subst he
    rfl
  cached es result h := by
    rcases tells_cachedConfig.mp h with ⟨c, rfl, -⟩ | ⟨g, reads, fault, rfl, hreads, -⟩ |
      ⟨g, reads, c, rfl, hreads, -⟩
    · apply refreshed_of_no_keep
      intro e he
      simp only [List.mem_singleton] at he
      subst he
      rfl
    · apply refreshed_of_no_keep
      rintro e (_ | ⟨_, he⟩)
      · rfl
      · exact readConfig_keeps_nothing _ _ hreads e he
    · intro before g' c' after heq
      rw [← List.cons_append] at heq
      rcases append_eq_append_cons.mp heq with ⟨rest, hcut, -⟩ | ⟨rest, rfl, hrest⟩
      · -- Neither the look-up nor a read offers anything.
        have hmem : (⟨.keep g' c', ()⟩ : Line) ∈ (⟨.lookUp, .stale g⟩ : Line) :: reads := by
          rw [hcut]
          exact List.mem_append_cons_self
        rcases hmem with _ | ⟨_, hmem⟩
        cases readConfig_keeps_nothing _ _ hreads _ hmem
      · cases rest with
        | nil =>
            obtain ⟨hkeep, -⟩ := List.cons.inj hrest
            cases hkeep
            exact ⟨[], reads, by rw [List.append_nil]; rfl, hreads⟩
        | cons e rest =>
            have hnil := (List.cons.inj hrest).2
            exact absurd hnil.symm
              (List.append_ne_nil_of_right_ne_nil _ (List.cons_ne_nil _ _))

/-- What holds of every read, every look-up and every offer to the cache holds of every line of a
look at the configuration. -/
lemma consults_lines {P : Line → Prop}
    (hread : ∀ table a q answer, P ⟨.send (.read table a q), answer⟩)
    (hlookUp : ∀ found, P ⟨.lookUp, found⟩) (hkeep : ∀ g c, P ⟨.keep g c, ()⟩) :
    Consults fun es => ∀ e ∈ es, P e := by
  have hreads : Reads fun es : List Line => ∀ e ∈ es, P e := {
    toLasting := .lines _
    read := by
      intro table a q answer e he
      simp only [List.mem_singleton] at he
      subst he
      exact hread table a q answer }
  refine { hreads with cached := ?_ }
  intro es result h
  rcases tells_cachedConfig.mp h with ⟨c, rfl, -⟩ | ⟨g, reads, fault, rfl, htells, -⟩ |
    ⟨g, reads, c, rfl, htells, -⟩
  · exact List.forall_mem_singleton.mpr (hlookUp _)
  · exact List.forall_mem_cons.mpr ⟨hlookUp _, hreads.readConfig _ _ htells⟩
  · refine List.forall_mem_cons.mpr ⟨hlookUp _, ?_⟩
    exact hreads.append (hreads.readConfig _ _ htells) (List.forall_mem_singleton.mpr (hkeep g c))

/-- **No look at the configuration changes the registers or the generation.** -/
theorem quiet_consults : Consults fun es => ∀ e ∈ es, e.quiet = true :=
  consults_lines (fun _ _ _ _ => rfl) (fun _ => rfl) fun _ _ => rfl

/-- No look at the configuration stores anything. -/
lemma storeless_consults : Consults fun es => ∀ e ∈ es, e.stores = false :=
  consults_lines (fun _ _ _ answer => by cases answer <;> rfl) (fun _ => rfl) fun _ _ => rfl

/-! ## Looking at the configuration -/

namespace Consults

lemma batteryProfile (hP : Consults P) : Always P batteryProfile :=
  .bind hP.toLasting hP.cached fun _ => .pure hP.toLasting _

lemma chargingParameters (hP : Consults P) : Always P chargingParameters :=
  .bind hP.toLasting hP.cached fun _ => .pure hP.toLasting _

/-- A check of a proposal asks for nothing but the cached configuration. -/
lemma checkProposal (hP : Consults P) (p : ChargingUpdate) : Always P (checkProposal p) := by
  refine .bind hP.toLasting hP.cached fun current => ?_
  refine .bind hP.toLasting ((silent_allowed _).always hP.toLasting) fun _ => ?_
  exact (silent_allowed _).always hP.toLasting

end Consults

/-- The battery profile is that of the cached configuration. -/
lemma tells_batteryProfile_ok {es : List Line} {profile : BatteryProfile} :
    Tells batteryProfile es (.ok profile) ↔
      ∃ c, Tells cachedConfig es (.ok c) ∧ profile = c.profile := by
  constructor
  · intro h
    obtain ⟨first, c, second, rfl, hcached, hpure⟩ := tells_bind_ok.mp h
    obtain ⟨rfl, hprofile⟩ := tells_pure.mp hpure
    rw [List.append_nil]
    exact ⟨c, hcached, Except.ok.inj hprofile⟩
  · rintro ⟨c, hcached, rfl⟩
    exact tells_bind_ok.mpr ⟨es, c, [], (List.append_nil es).symm, hcached, .stay _⟩

/-- And so are the charging parameters. -/
lemma tells_chargingParameters_ok {es : List Line} {params : ChargingParameters} :
    Tells chargingParameters es (.ok params) ↔
      ∃ c, Tells cachedConfig es (.ok c) ∧ params = c.charging := by
  constructor
  · intro h
    obtain ⟨first, c, second, rfl, hcached, hpure⟩ := tells_bind_ok.mp h
    obtain ⟨rfl, hparams⟩ := tells_pure.mp hpure
    rw [List.append_nil]
    exact ⟨c, hcached, Except.ok.inj hparams⟩
  · rintro ⟨c, hcached, rfl⟩
    exact tells_bind_ok.mpr ⟨es, c, [], (List.append_nil es).symm, hcached, .stay _⟩

lemma throws_batteryProfile : Throws (·.isReading = true) batteryProfile :=
  .bind throws_cachedConfig fun _ => .pure _

lemma throws_chargingParameters : Throws (·.isReading = true) chargingParameters :=
  .bind throws_cachedConfig fun _ => .pure _

lemma throws_allowed (check : Except ParameterFault Unit) :
    Throws (·.isWriting = false) (allowed check) := by
  simp only [allowed]
  split
  · exact .pure _
  · exact .throw rfl

lemma throws_requireUserDefined (t : BatteryType) :
    Throws (·.isWriting = false) (requireUserDefined t) := by
  simp only [requireUserDefined]
  split
  · exact .pure _
  · exact .throw rfl

/-- A proposal can be refused, or its configuration not be read; nothing is written. -/
lemma throws_checkProposal (p : ChargingUpdate) :
    Throws (·.isWriting = false) (checkProposal p) := by
  refine .bind (throws_cachedConfig.mono fun _ => SettingsFault.isWriting_of_isReading) ?_
  exact fun _ => .bind (throws_allowed _) fun _ => throws_allowed _

/-- A proposal that was not refused is in order on top of the configuration that was looked up. -/
lemma tells_checkProposal_ok {p : ChargingUpdate} {es : List Line} {u : Unit}
    (h : Tells (checkProposal p) es (.ok u)) :
    ∃ c, Tells cachedConfig es (.ok c) ∧ (p.onto c.charging).checkRanges = .ok () ∧
      (p.onto c.charging).checkOrder = .ok () := by
  obtain ⟨first, c, second, rfl, hcached, h⟩ := tells_bind_ok.mp h
  obtain ⟨_, _, _, rfl, hranges, horder⟩ := tells_bind_ok.mp h
  obtain ⟨rfl, hranges'⟩ := tells_allowed_ok.mp hranges
  obtain ⟨rfl, horder'⟩ := tells_allowed_ok.mp horder
  rw [List.append_nil, List.append_nil]
  exact ⟨c, hcached, hranges', horder'⟩

end Settings

end ChargeController
