import ChargeController.Proofs.Register.Moments
import ChargeController.Proofs.Settings.Reading
import Mathlib.Data.List.Forall2
import Mathlib.Data.List.Induction

/-!
# Accounts of updates

Every update goes through the same stages: it prepares, which may refuse it; it stores, which stops
at the first write that fails; it forgets the cached configuration if it stored anything; and it
reads the new state back.  What an update can leave behind is therefore proved once, for the stages.

* `Stored` — the lines in which register writes were accepted, in their order.
* **`tells_staged`** — how far an update can come.
* `Unsettled` — an accepted write that no forgetting has followed.
* **`Staged.settled`** — an update that leaves one has failed.
-/

namespace ChargeController

open Settings

namespace Settings

variable {α : Type} {P : List Line → Prop}

/-! ## Single writes -/

/-- The line in which a register write was accepted. -/
def Accepts (w : RegisterWrite) (e : Line) : Prop :=
  ∃ data, e = ⟨.send (.writeWord w.register.address w.value), .ok data⟩

/-- The lines in which register writes were accepted, in their order. -/
abbrev Stored (ws : List RegisterWrite) (es : List Line) : Prop :=
  List.Forall₂ Accepts ws es

/-- Whether a line is a write request that failed. -/
def Refusal (e : Line) : Prop :=
  e.writes = true ∧ e.stores = false

lemma tells_accepted {r : Register} {value : UInt16} {answer : Answer} {es : List Line}
    {result : Except SettingsFault Unit} :
    Tells (accepted r value answer) es result ↔
      (∃ data, answer = .ok data ∧ es = [] ∧ result = .ok ()) ∨
        ∃ source, answer = .error source ∧ es = [⟨.countWriteFailure, ()⟩] ∧
          result = .error (.write r.name r.address value source) := by
  cases answer with
  | ok data =>
      refine tells_pure.trans ?_
      constructor
      · rintro ⟨rfl, rfl⟩
        exact .inl ⟨data, rfl, rfl, rfl⟩
      · rintro (⟨_, -, rfl, rfl⟩ | ⟨_, h, -⟩)
        · exact ⟨rfl, rfl⟩
        · cases h
  | error source =>
      constructor
      · intro h
        obtain ⟨⟨⟩, rest, rfl, hrest⟩ := Dialogue.ends_ask.mp h
        obtain ⟨rfl, rfl⟩ := tells_throw.mp hrest
        exact .inr ⟨source, rfl, rfl, rfl⟩
      · rintro (⟨_, h, -⟩ | ⟨source', h, rfl, rfl⟩)
        · cases h
        · cases h
          exact .ask (.stay _)

lemma tells_send {r : Request} {es : List Line} {result : Except SettingsFault Answer} :
    Tells (send r) es result ↔ ∃ answer, es = [⟨.send r, answer⟩] ∧ result = .ok answer :=
  tells_ask

/-- A write is one request, and a refused one is counted. -/
lemma tells_writeRegister {w : RegisterWrite} {es : List Line}
    {result : Except SettingsFault Unit} :
    Tells (writeRegister w) es result ↔
      (∃ e, Accepts w e ∧ es = [e] ∧ result = .ok ()) ∨
        ∃ source, es = [⟨.send (.writeWord w.register.address w.value), .error source⟩,
            ⟨.countWriteFailure, ()⟩] ∧
          result = .error (.write w.register.name w.register.address w.value source) := by
  constructor
  · intro h
    rcases tells_bind.mp h with ⟨fault, hfault, -⟩ | ⟨first, answer, second, rfl, hsend, hrest⟩
    · obtain ⟨_, _, hok⟩ := tells_send.mp hfault
      cases hok
    · obtain ⟨reply, rfl, hreply⟩ := tells_send.mp hsend
      obtain rfl := Except.ok.inj hreply
      rcases tells_accepted.mp hrest with ⟨data, rfl, rfl, rfl⟩ | ⟨source, rfl, rfl, rfl⟩
      · exact .inl ⟨_, ⟨data, rfl⟩, rfl, rfl⟩
      · exact .inr ⟨source, rfl, rfl⟩
  · rintro (⟨_, ⟨data, rfl⟩, rfl, rfl⟩ | ⟨source, rfl, rfl⟩)
    · exact .ask (.stay _)
    · exact .ask (.ask (.stay _))

/-- **A row of writes succeeds exactly if all of them are accepted, one after the other.** -/
theorem tells_writeAll_ok {ws : List RegisterWrite} {es : List Line} {u : Unit} :
    Tells (writeAll ws) es (.ok u) ↔ Stored ws es := by
  induction ws generalizing es with
  | nil =>
      rw [writeAll, tells_pure]
      constructor
      · rintro ⟨rfl, -⟩
        exact .nil
      · rintro ⟨⟩
        exact ⟨rfl, rfl⟩
  | cons w rest ih =>
      rw [writeAll, tells_bind_ok]
      constructor
      · rintro ⟨first, _, second, rfl, hfirst, hsecond⟩
        rcases tells_writeRegister.mp hfirst with ⟨e, haccepts, rfl, -⟩ | ⟨_, -, hok⟩
        · exact .cons haccepts (ih.mp hsecond)
        · cases hok
      · rintro (_ | ⟨haccepts, hrest⟩)
        exact ⟨[_], (), _, rfl, tells_writeRegister.mpr (.inl ⟨_, haccepts, rfl, rfl⟩),
          ih.mpr hrest⟩

lemma Accepts.stores {w : RegisterWrite} {e : Line} (h : Accepts w e) : e.stores = true := by
  obtain ⟨data, rfl⟩ := h
  rfl

lemma Accepts.forgets {w : RegisterWrite} {e : Line} (h : Accepts w e) : e.forgets = false := by
  obtain ⟨data, rfl⟩ := h
  rfl

lemma Stored.accepts {ws : List RegisterWrite} {es : List Line} (h : Stored ws es) {e : Line}
    (he : e ∈ es) : ∃ w ∈ ws, Accepts w e := by
  induction h with
  | nil => exact absurd he List.not_mem_nil
  | cons haccepts _ ih =>
      simp only [List.mem_cons] at he
      rcases he with rfl | he
      · exact ⟨_, List.mem_cons_self, haccepts⟩
      · obtain ⟨w, hw, hwe⟩ := ih he
        exact ⟨w, List.mem_cons_of_mem _ hw, hwe⟩

/-- A row of writes fails only where the device has refused one. -/
lemma writeAll_refusal {ws : List RegisterWrite} {es : List Line} {fault : SettingsFault}
    (h : Tells (writeAll ws) es (.error fault)) : ∃ e ∈ es, Refusal e := by
  induction ws generalizing es with
  | nil => cases (tells_pure.mp h).2
  | cons w rest ih =>
      rcases tells_bind.mp h with ⟨fault', hfirst, -⟩ | ⟨first, _, second, rfl, -, hsecond⟩
      · rcases tells_writeRegister.mp hfirst with ⟨_, -, -, hok⟩ | ⟨source, rfl, -⟩
        · cases hok
        · exact ⟨_, List.mem_cons_self, rfl, rfl⟩
      · obtain ⟨e, he, hrefusal⟩ := ih hsecond
        exact ⟨e, List.mem_append_right _ he, hrefusal⟩

/-- The battery type is written, or its write fails and is counted, or there is nothing to
write. -/
lemma tells_storeBatteryType {t : BatteryType} {es : List Line}
    {result : Except SettingsFault Unit} (h : Tells (storeBatteryType t) es result) :
    (∃ code e, t.code? = some code ∧ Accepts ⟨Register.batteryType, code⟩ e ∧ es = [e] ∧
      result = .ok ()) ∨
    (∃ code source, t.code? = some code ∧
      es = [⟨.send (.writeWord Register.batteryType.address code), .error source⟩,
        ⟨.countWriteFailure, ()⟩] ∧
      result = .error
        (.write Register.batteryType.name Register.batteryType.address code source)) ∨
    (t.code? = none ∧ es = [] ∧ result = .error .unknownBatteryType) := by
  simp only [storeBatteryType] at h
  split at h
  · next code hcode =>
      rcases tells_writeRegister.mp h with ⟨e, haccepts, rfl, rfl⟩ | ⟨source, rfl, rfl⟩
      · exact .inl ⟨code, e, hcode, haccepts, rfl, rfl⟩
      · exact .inr (.inl ⟨code, source, hcode, rfl, rfl⟩)
  · next hcode =>
      obtain ⟨rfl, rfl⟩ := tells_throw.mp h
      exact .inr (.inr ⟨hcode, rfl, rfl⟩)

/-! ## The clock -/

/-- Whether the clock registers can hold a moment. -/
def Encodes (t : DateTime) : Prop :=
  ∃ bytes, Register.clockBytes t = .ok bytes

lemma encodes_iff {t : DateTime} : Encodes t ↔ 2000 ≤ t.year ∧ t.year ≤ 2255 :=
  Register.exists_clockBytes_iff

/-- The six bytes of a moment are a block write of three words. -/
lemma ofBlock_clock (a b c d e f : UInt8) :
    Request.ofBlock Register.deviceClock.address Register.deviceClock.quantity [a, b, c, d, e, f] =
      .ok (.writeWords Register.deviceClock.address
        [Register.word a b, Register.word c d, Register.word e f]) := by
  have hwords : Register.wordsOfBytes [a, b, c, d, e, f] =
      .ok [Register.word a b, Register.word c d, Register.word e f] :=
    Register.wordsOfBytes_of_even (by simp)
  rw [Request.ofBlock, hwords]
  exact if_pos (show 3 = Register.deviceClock.quantity.toNat by decide)

/-- The requests that write the clock. -/
def ClockRequest (r : Request) : Prop :=
  ∃ words, words.length = 3 ∧ r = .writeWords Register.deviceClock.address words

/-- The request that sets the clock to a moment; a moment that the clock registers cannot hold has
none. -/
def clockRequest? (t : DateTime) : Option Request :=
  match Register.clockBytes t with
  | .ok [a, b, c, d, e, f] =>
      some (.writeWords Register.deviceClock.address
        [Register.word a b, Register.word c d, Register.word e f])
  | _ => none

lemma clockBytes_cases (t : DateTime) :
    (∃ a b c d e f, Register.clockBytes t = .ok [a, b, c, d, e, f]) ∨
      ∃ fault, Register.clockBytes t = .error fault := by
  unfold Register.clockBytes
  dsimp only
  split
  · exact .inl ⟨_, _, _, _, _, _, rfl⟩
  · exact .inr ⟨_, rfl⟩

lemma clockRequest_of_eq_some {t : DateTime} {r : Request} (h : clockRequest? t = some r) :
    ClockRequest r := by
  simp only [clockRequest?] at h
  split at h
  · obtain rfl := Option.some.inj h
    exact ⟨_, rfl, rfl⟩
  · cases h

/-- There is a request that sets the clock exactly if its registers can hold the moment. -/
lemma clockRequest?_isSome {t : DateTime} : (clockRequest? t).isSome = true ↔ Encodes t := by
  unfold clockRequest? Encodes
  rcases clockBytes_cases t with ⟨a, b, c, d, e, f, hbytes⟩ | ⟨fault, hfault⟩
  · simp [hbytes]
  · simp [hfault]

/-- The clock is written, or its write fails and is counted, or there is nothing to write. -/
lemma tells_storeClock {t : DateTime} {es : List Line} {result : Except SettingsFault Unit}
    (h : Tells (storeClock t) es result) :
    (∃ r data, clockRequest? t = some r ∧ es = [⟨.send r, .ok data⟩] ∧ result = .ok ()) ∨
    (∃ r source, clockRequest? t = some r ∧
      es = [⟨.send r, .error source⟩, ⟨.countWriteFailure, ()⟩] ∧
      result = .error
        (.write Register.deviceClock.name Register.deviceClock.address 0 source)) ∨
    ∃ source, clockRequest? t = none ∧ es = [] ∧
      result = .error
        (.decode Register.deviceClock.name Register.deviceClock.address source) := by
  rcases clockBytes_cases t with ⟨a, b, c, d, e, f, hbytes⟩ | ⟨source, hsource⟩
  · have hrequest : clockRequest? t = some (.writeWords Register.deviceClock.address
        [Register.word a b, Register.word c d, Register.word e f]) := by
      rw [clockRequest?, hbytes]
    rcases tells_bind.mp h with ⟨fault, hfault, -⟩ | ⟨_, bytes, rest, rfl, hdecoded, hrest⟩
    · have hok := (tells_decoded.mp hfault).2
      rw [hbytes] at hok
      cases hok
    obtain ⟨rfl, heq⟩ := tells_decoded_ok.mp hdecoded
    obtain rfl := Except.ok.inj (hbytes.symm.trans heq)
    rw [ofBlock_clock] at hrest
    rcases tells_bind.mp hrest with ⟨fault, hfault, -⟩ | ⟨_, answer, last, rfl, hsend, hlast⟩
    · obtain ⟨_, _, hok⟩ := tells_send.mp hfault
      cases hok
    obtain ⟨reply, rfl, hreply⟩ := tells_send.mp hsend
    obtain rfl := Except.ok.inj hreply
    rcases tells_accepted.mp hlast with ⟨data, rfl, rfl, rfl⟩ | ⟨source, rfl, rfl, rfl⟩
    · exact .inl ⟨_, data, hrequest, rfl, rfl⟩
    · exact .inr (.inl ⟨_, source, hrequest, rfl, rfl⟩)
  · rcases tells_bind.mp h with ⟨fault, hfault, rfl⟩ | ⟨_, bytes, _, rfl, hdecoded, -⟩
    · obtain ⟨rfl, heq⟩ := tells_decoded.mp hfault
      rw [hsource] at heq
      obtain rfl := Except.error.inj heq
      exact .inr (.inr ⟨source, by rw [clockRequest?, hsource], rfl, rfl⟩)
    · rw [hsource] at hdecoded
      cases (tells_decoded_ok.mp hdecoded).2

/-! ## Faults of writing -/

lemma throws_writeRegister (w : RegisterWrite) : Throws (·.isWriting = true) (writeRegister w) := by
  intro es fault h
  rcases tells_writeRegister.mp h with ⟨_, -, -, hok⟩ | ⟨_, -, hfault⟩
  · cases hok
  · obtain rfl := Except.error.inj hfault
    rfl

lemma throws_writeAll (ws : List RegisterWrite) : Throws (·.isWriting = true) (writeAll ws) := by
  induction ws with
  | nil => exact .pure ()
  | cons w rest ih => exact .bind (throws_writeRegister w) fun _ => ih

lemma throws_storeClock (t : DateTime) :
    Throws (fun fault => fault.isWriting = true ∨ fault.isReading = true) (storeClock t) := by
  intro es fault h
  rcases tells_storeClock h with ⟨_, _, -, -, hok⟩ | ⟨_, _, -, -, hfault⟩ | ⟨_, -, -, hfault⟩
  · cases hok
  · obtain rfl := Except.error.inj hfault
    exact .inl rfl
  · obtain rfl := Except.error.inj hfault
    exact .inr rfl

/-! ## Facts about every update -/

/-- A fact about accounts that no line breaks but one that offers something to the cache or writes
a register for which `mayWrite` does not hold. -/
structure Allows (mayWrite : Register → Prop) (P : List Line → Prop) : Prop
    extends Consults P where
  word (r : Register) (value answer) :
    mayWrite r → P [⟨.send (.writeWord r.address value), answer⟩]
  clock (r answer) : mayWrite Register.deviceClock → ClockRequest r → P [⟨.send r, answer⟩]
  count : P [⟨.countWriteFailure, ()⟩]
  forget : P [⟨.forget, ()⟩]

namespace Allows

variable {mayWrite : Register → Prop}

lemma invalidate (hP : Allows mayWrite P) : Always P invalidate :=
  .ask fun _ => hP.forget

lemma invalidateIf (hP : Allows mayWrite P) (wrote : Bool) : Always P (invalidateIf wrote) := by
  cases wrote with
  | true => exact hP.invalidate
  | false => exact .pure hP.toLasting _

lemma writeRegister (hP : Allows mayWrite P) (w : RegisterWrite) (hw : mayWrite w.register) :
    Always P (writeRegister w) := by
  intro es result h
  rcases tells_writeRegister.mp h with ⟨_, ⟨data, rfl⟩, rfl, -⟩ | ⟨source, rfl, -⟩
  · exact hP.word _ _ _ hw
  · exact hP.append (hP.word _ _ _ hw) hP.count

lemma writeAll (hP : Allows mayWrite P) {ws : List RegisterWrite}
    (hws : ∀ w ∈ ws, mayWrite w.register) : Always P (writeAll ws) := by
  induction ws with
  | nil => exact .pure hP.toLasting _
  | cons w rest ih =>
      refine .bind hP.toLasting (hP.writeRegister w (hws w List.mem_cons_self)) fun _ => ?_
      exact ih fun w' hw' => hws w' (List.mem_cons_of_mem _ hw')

lemma storeBatteryType (hP : Allows mayWrite P) (htype : mayWrite Register.batteryType)
    (t : BatteryType) : Always P (storeBatteryType t) := by
  simp only [Settings.storeBatteryType]
  split
  · exact hP.writeRegister _ htype
  · exact .throw hP.toLasting _

lemma storeClock (hP : Allows mayWrite P) (hclock : mayWrite Register.deviceClock)
    (t : DateTime) : Always P (storeClock t) := by
  intro es result h
  rcases tells_storeClock h with ⟨r, data, hr, rfl, -⟩ | ⟨r, source, hr, rfl, -⟩ | ⟨_, -, rfl, -⟩
  · exact hP.clock r _ hclock (clockRequest_of_eq_some hr)
  · exact hP.append (hP.clock r _ hclock (clockRequest_of_eq_some hr)) hP.count
  · exact hP.nil

end Allows

/-- **Whatever an update offers to the cache, too, was read just before.** -/
theorem refreshed_allows : Allows (fun _ => True) Refreshed where
  toConsults := refreshed_consults
  word r value answer _ := refreshed_of_no_keep (by simp [Exchange.keeps])
  clock r answer _ _ := refreshed_of_no_keep (by simp [Exchange.keeps])
  count := refreshed_of_no_keep (by simp [Exchange.keeps])
  forget := refreshed_of_no_keep (by simp [Exchange.keeps])

/-! ## What is left behind -/

/-- An accepted write that no forgetting has followed. -/
def Unsettled (es : List Line) : Prop :=
  ∃ before e after, es = before ++ e :: after ∧ e.stores = true ∧ ∀ x ∈ after, x.forgets = false

/-- What is unsettled stays so until something is forgotten. -/
lemma unsettled_append {es es' : List Line} :
    Unsettled (es ++ es') ↔
      Unsettled es' ∨ (Unsettled es ∧ ∀ x ∈ es', x.forgets = false) := by
  constructor
  · rintro ⟨before, e, after, heq, hstores, hafter⟩
    rcases append_eq_append_cons.mp heq with ⟨rest, rfl, rfl⟩ | ⟨rest, rfl, rfl⟩
    · refine .inr ⟨⟨before, e, rest, rfl, hstores, ?_⟩, ?_⟩
      · exact fun x hx => hafter x (List.mem_append_left _ hx)
      · exact fun x hx => hafter x (List.mem_append_right _ hx)
    · exact .inl ⟨rest, e, after, rfl, hstores, hafter⟩
  · rintro (⟨before, e, after, rfl, hstores, hafter⟩ |
      ⟨⟨before, e, after, rfl, hstores, hafter⟩, hlast⟩)
    · exact ⟨es ++ before, e, after, by rw [List.append_assoc], hstores, hafter⟩
    · refine ⟨before, e, after ++ es', by rw [List.append_assoc, List.cons_append], hstores, ?_⟩
      intro x hx
      simp only [List.mem_append] at hx
      rcases hx with hx | hx
      · exact hafter x hx
      · exact hlast x hx

lemma Unsettled.exists_stores {es : List Line} (h : Unsettled es) : ∃ e ∈ es, e.stores = true := by
  obtain ⟨before, e, after, rfl, hstores, -⟩ := h
  exact ⟨e, List.mem_append_cons_self, hstores⟩

lemma not_unsettled_of_no_store {es : List Line} (h : ∀ e ∈ es, e.stores = false) :
    ¬ Unsettled es := by
  intro hunsettled
  obtain ⟨e, he, hstores⟩ := hunsettled.exists_stores
  rw [h e he] at hstores
  cases hstores

lemma not_unsettled_of_quiet {es : List Line} (h : ∀ e ∈ es, e.quiet = true) :
    ¬ Unsettled es := by
  apply not_unsettled_of_no_store
  intro e he
  rw [Bool.eq_false_iff]
  intro hstores
  have hwrites := Exchange.writes_of_quiet (h e he)
  rw [Exchange.writes_of_stores hstores] at hwrites
  cases hwrites

/-- After a write that was settled comes a forgetting, and after the last one no write. -/
lemma exists_forget_of_settled {es : List Line} (h : ¬ Unsettled es)
    (hstores : ∃ e ∈ es, e.stores = true) :
    ∃ before after, es = before ++ ⟨.forget, ()⟩ :: after ∧ (∀ e ∈ after, e.forgets = false) ∧
      ∀ e ∈ after, e.stores = false := by
  induction es using List.reverseRecOn with
  | nil =>
      obtain ⟨e, he, -⟩ := hstores
      simp at he
  | append_singleton es last ih =>
      cases hforgets : last.forgets with
      | true =>
          obtain rfl := Exchange.forgets_eq hforgets
          exact ⟨es, [], rfl, by simp, by simp⟩
      | false =>
          have hlast : last.stores = false := by
            rw [Bool.eq_false_iff]
            intro hlast
            exact h ⟨es, last, [], rfl, hlast, by simp⟩
          have hearlier : ¬ Unsettled es := fun hes =>
            h (unsettled_append.mpr (.inr ⟨hes, by simpa using hforgets⟩))
          obtain ⟨e, he, hstores⟩ := hstores
          have he : e ∈ es := by
            simp only [List.mem_append] at he
            rcases he with he | he
            · exact he
            · simp only [List.mem_singleton] at he
              subst he
              rw [hlast] at hstores
              cases hstores
          obtain ⟨before, after, rfl, hquiet, hnone⟩ := ih hearlier ⟨e, he, hstores⟩
          refine ⟨before, after ++ [last], by simp, ?_, ?_⟩
          · intro x hx
            simp only [List.mem_append] at hx
            rcases hx with hx | hx
            · exact hquiet x hx
            · rwa [List.mem_singleton.mp hx]
          · intro x hx
            simp only [List.mem_append] at hx
            rcases hx with hx | hx
            · exact hnone x hx
            · rwa [List.mem_singleton.mp hx]

/-! ## The stages of an update -/

/-- The lines of forgetting if anything was written. -/
def forgetting (wrote : Bool) : List Line :=
  if wrote then [⟨.forget, ()⟩] else []

lemma eq_forget_of_mem_forgetting {wrote : Bool} {e : Line} (he : e ∈ forgetting wrote) :
    e = ⟨.forget, ()⟩ := by
  cases wrote with
  | true => simpa [forgetting] using he
  | false => simp [forgetting] at he

lemma tells_invalidateIf {wrote : Bool} {es : List Line} {result : Except SettingsFault Unit} :
    Tells (invalidateIf wrote) es result ↔ es = forgetting wrote ∧ result = .ok () := by
  cases wrote with
  | true =>
      constructor
      · intro h
        obtain ⟨⟨⟩, rfl, rfl⟩ := tells_ask.mp h
        exact ⟨rfl, rfl⟩
      · rintro ⟨rfl, rfl⟩
        exact .ask (.stay _)
  | false => exact tells_pure

/-- An update in stages.  Preparing leaves nothing unsettled.  Storing that went through was
accepted throughout, and said nothing if nothing was written; storing that failed after an accepted
write has met a refusal or the one `accident` that the stages allow for. -/
structure Stages (α : Type) where
  prepare : Procedure Unit
  store : Procedure Unit
  wrote : Bool
  what : String
  read : Procedure α
  accident : Prop
  prepare_settled : Always (fun es => ¬ Unsettled es) prepare
  prepare_accepted {es u} : Tells prepare es (.ok u) → ∀ e ∈ es, e.writes = true → e.stores = true
  store_accepted {es u} : Tells store es (.ok u) → ∀ e ∈ es, e.stores = true
  store_idle {es u} : wrote = false → Tells store es (.ok u) → es = []
  store_failed {es fault} :
    Tells store es (.error fault) → Unsettled es → (∃ e ∈ es, Refusal e) ∨ accident
  read_quiet : Always (fun es => ∀ e ∈ es, e.quiet = true) read

namespace Stages

def procedure (s : Stages α) : Procedure (Confirmation α) := do
  s.prepare
  s.store
  invalidateIf s.wrote
  confirm s.what s.read

/-- **How far an update can come**: preparing fails, or storing fails, or the new state is read
back. -/
theorem tells_staged {s : Stages α} {es : List Line}
    {result : Except SettingsFault (Confirmation α)} :
    Tells s.procedure es result ↔
      (∃ fault, Tells s.prepare es (.error fault) ∧ result = .error fault) ∨
      (∃ prepared stored fault, es = prepared ++ stored ∧ Tells s.prepare prepared (.ok ()) ∧
        Tells s.store stored (.error fault) ∧ result = .error fault) ∨
      ∃ prepared stored back, es = prepared ++ (stored ++ (forgetting s.wrote ++ back)) ∧
        Tells s.prepare prepared (.ok ()) ∧ Tells s.store stored (.ok ()) ∧
        Tells (confirm s.what s.read) back result := by
  constructor
  · intro h
    rcases tells_bind.mp h with hfault | ⟨prepared, _, rest, rfl, hprepare, hrest⟩
    · exact .inl hfault
    rcases tells_bind.mp hrest with ⟨fault, hfault, rfl⟩ | ⟨stored, _, last, rfl, hstore, hlast⟩
    · exact .inr (.inl ⟨prepared, rest, fault, rfl, hprepare, hfault, rfl⟩)
    rcases tells_bind.mp hlast with ⟨fault, hfault, rfl⟩ | ⟨forgot, _, back, rfl, hforget, hback⟩
    · cases (tells_invalidateIf.mp hfault).2
    obtain ⟨rfl, -⟩ := tells_invalidateIf.mp hforget
    exact .inr (.inr ⟨prepared, stored, back, rfl, hprepare, hstore, hback⟩)
  · rintro (⟨fault, hprepare, rfl⟩ | ⟨prepared, stored, fault, rfl, hprepare, hstore, rfl⟩ |
      ⟨prepared, stored, back, rfl, hprepare, hstore, hback⟩)
    · exact tells_bind.mpr (.inl ⟨fault, hprepare, rfl⟩)
    · refine tells_bind.mpr (.inr ⟨prepared, (), stored, rfl, hprepare, ?_⟩)
      exact tells_bind.mpr (.inl ⟨fault, hstore, rfl⟩)
    · refine tells_bind.mpr (.inr ⟨prepared, (), _, rfl, hprepare, ?_⟩)
      refine tells_bind.mpr (.inr ⟨stored, (), _, rfl, hstore, ?_⟩)
      exact tells_bind.mpr (.inr ⟨_, (), back, rfl, tells_invalidateIf.mpr ⟨rfl, rfl⟩, hback⟩)

/-- **An update that leaves an accepted write unsettled has failed**, because of a refusal or of its
accident. -/
theorem settled {s : Stages α} {es : List Line} {result : Except SettingsFault (Confirmation α)}
    (h : Tells s.procedure es result) (hunsettled : Unsettled es) :
    (∃ fault, result = .error fault) ∧ ((∃ e ∈ es, Refusal e) ∨ s.accident) := by
  rcases tells_staged.mp h with ⟨fault, hprepare, -⟩ |
    ⟨prepared, stored, fault, rfl, hprepare, hstore, rfl⟩ |
    ⟨prepared, stored, back, rfl, hprepare, hstore, hback⟩
  · exact absurd hunsettled (s.prepare_settled _ _ hprepare)
  · refine ⟨⟨fault, rfl⟩, ?_⟩
    rcases unsettled_append.mp hunsettled with hunsettled | ⟨hunsettled, -⟩
    · rcases s.store_failed hstore hunsettled with ⟨e, he, hrefusal⟩ | haccident
      · exact .inl ⟨e, List.mem_append_right _ he, hrefusal⟩
      · exact .inr haccident
    · exact absurd hunsettled (s.prepare_settled _ _ hprepare)
  · exfalso
    have hquiet := s.read_quiet.confirm s.what _ _ hback
    rcases unsettled_append.mp hunsettled with hunsettled | ⟨hunsettled, -⟩
    swap
    · exact s.prepare_settled _ _ hprepare hunsettled
    cases hwrote : s.wrote with
    | false =>
        obtain rfl := s.store_idle hwrote hstore
        rw [hwrote] at hunsettled
        exact not_unsettled_of_quiet hquiet hunsettled
    | true =>
        rw [hwrote] at hunsettled
        rcases unsettled_append.mp hunsettled with hunsettled | ⟨-, hnone⟩
        · rcases unsettled_append.mp hunsettled with hunsettled | ⟨hunsettled, -⟩
          · exact not_unsettled_of_quiet hquiet hunsettled
          · exact not_unsettled_of_no_store (by simp [forgetting, Exchange.stores]) hunsettled
        · cases hnone ⟨.forget, ()⟩ (by simp [forgetting])

/-- An update that has not failed ends by reading back, and all its writes were accepted. -/
theorem succeeded {s : Stages α} {es : List Line} {c : Confirmation α}
    (h : Tells s.procedure es (.ok c)) :
    (∀ e ∈ es, e.writes = true → e.stores = true) ∧
      ∃ front back, es = front ++ back ∧ Tells (confirm s.what s.read) back (.ok c) := by
  rcases tells_staged.mp h with ⟨fault, -, hok⟩ | ⟨_, _, fault, -, -, -, hok⟩ |
    ⟨prepared, stored, back, rfl, hprepare, hstore, hback⟩
  · cases hok
  · cases hok
  refine ⟨?_, prepared ++ (stored ++ forgetting s.wrote), back, by simp, hback⟩
  intro e he hwrites
  rcases List.mem_append.mp he with he | he
  · exact s.prepare_accepted hprepare e he hwrites
  rcases List.mem_append.mp he with he | he
  · exact s.store_accepted hstore e he
  simp only [List.mem_append] at he
  rcases he with he | he
  · rw [forgetting] at he
    split at he
    · simp only [List.mem_singleton] at he
      subst he
      cases hwrites
    · simp at he
  · rw [Exchange.writes_of_quiet (s.read_quiet.confirm s.what _ _ hback e he)] at hwrites
    cases hwrites

end Stages

end Settings

end ChargeController
