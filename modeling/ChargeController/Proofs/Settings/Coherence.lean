import ChargeController.Proofs.Settings.Holding

/-!
# The cache and the registers

When one operation comes after another, nobody writes during a reading, so what is offered to the
cache is what the registers hold.  It stays so through every later operation that forgets after its
last write.  The one way to leave this is an operation that fails after a write was accepted and
before it forgets: from then on, and until somebody forgets, the cache tells of registers as they
were.

* `Session` — operations one after the other.
* `Coherent` — the kept configuration is the one of the registers.
* **`Coherent.cached`** — what is then looked up.
* **`coherent_or_failed`** — where a session that began with an empty cache can have come to.
-/

namespace ChargeController

open Settings Dialogue

namespace Settings

/-! ## One operation after the other -/

/-- An operation that has ended, with its account. -/
structure Finished where
  op : Operation
  account : List Line
  result : Except SettingsFault op.Value

def Finished.Failed (f : Finished) : Prop :=
  ∃ fault, f.result = .error fault

/-- Operations one after the other, with any time between them; the log is in their order. -/
inductive Session {S : Type} (around : Surroundings S Ask Reply) (s : S) :
    List Finished → S → Prop
  | start : Session around s [] s
  | next {log s' s''} {f : Finished} (before : Session around s log s')
      (tells : Tells f.op.procedure f.account f.result)
      (answered : Answered around s' f.account s'') : Session around s (log ++ [f]) s''

lemma Session.cut {S : Type} {around : Surroundings S Ask Reply} {s s'' : S}
    {log₁ log₂ : List Finished} (session : Session around s (log₁ ++ log₂) s'') :
    ∃ s', Session around s log₁ s' ∧ Session around s' log₂ s'' := by
  generalize heq : log₁ ++ log₂ = log at session
  induction session generalizing log₂ with
  | start =>
      obtain ⟨rfl, rfl⟩ := List.append_eq_nil_iff.mp heq
      exact ⟨s, .start, .start⟩
  | @next log s₁ s₂ f before tells answered ih =>
      rcases List.eq_nil_or_concat log₂ with rfl | ⟨init, last, rfl⟩
      · rw [List.append_nil] at heq
        subst heq
        exact ⟨s₂, .next before tells answered, .start⟩
      · rw [List.concat_eq_append, ← List.append_assoc] at heq
        obtain ⟨rfl, hlast⟩ := List.append_inj' heq rfl
        cases hlast
        obtain ⟨middle, hfirst, hsecond⟩ := ih rfl
        rw [List.concat_eq_append]
        exact ⟨middle, hfirst, .next hsecond tells answered⟩

lemma Session.last {S : Type} {around : Surroundings S Ask Reply} {s s'' : S}
    {log : List Finished} {f : Finished} (session : Session around s (log ++ [f]) s'') :
    ∃ s', Session around s log s' ∧ Tells f.op.procedure f.account f.result ∧
      Answered around s' f.account s'' := by
  generalize heq : log ++ [f] = log' at session
  cases session with
  | start => exact absurd heq (List.append_ne_nil_of_right_ne_nil _ (List.cons_ne_nil _ _))
  | next before tells answered =>
      obtain ⟨rfl, hlast⟩ := List.append_inj' heq rfl
      cases hlast
      exact ⟨_, before, tells, answered⟩

lemma Session.trans {S : Type} {around : Surroundings S Ask Reply} {s s' s'' : S}
    {log₁ log₂ : List Finished} (first : Session around s log₁ s')
    (second : Session around s' log₂ s'') : Session around s (log₁ ++ log₂) s'' := by
  induction second with
  | start => rwa [List.append_nil]
  | next before tells answered ih =>
      rw [← List.append_assoc]
      exact .next ih tells answered

/-- The lines of all accounts in a log. -/
def lines (log : List Finished) : List Line :=
  log.flatMap (·.account)

@[simp] lemma lines_concat (log : List Finished) (f : Finished) :
    lines (log ++ [f]) = lines log ++ f.account := by
  simp [lines]

lemma Session.answered {S : Type} {around : Surroundings S Ask Reply} {s s' : S}
    {log : List Finished} (session : Session around s log s') :
    Answered around s (lines log) s' := by
  induction session with
  | start => exact .nil s
  | next before tells answered ih =>
      rw [lines_concat]
      exact answered_append.mpr ⟨_, ih, answered⟩

lemma Session.tells {S : Type} {around : Surroundings S Ask Reply} {s s' : S}
    {log : List Finished} (session : Session around s log s') {f : Finished} (hf : f ∈ log) :
    Tells f.op.procedure f.account f.result := by
  induction session with
  | start => cases hf
  | next before tells answered ih =>
      simp only [List.mem_append, List.mem_singleton] at hf
      rcases hf with hf | rfl
      · exact ih hf
      · exact tells

/-- The log of operations one after the other in surroundings with exactly one reply to each
question, and the state after them. -/
def playAll {S : Type} (serve : S → (q : Ask) → Reply q × S) :
    S → List Operation → List Finished × S
  | s, [] => ([], s)
  | s, op :: rest =>
      let played := play serve s op.procedure.run
      let later := playAll serve played.2.2 rest
      (⟨op, played.1, played.2.1⟩ :: later.1, later.2)

/-- **What is played is a session.** -/
theorem playAll_session {S : Type} {around : Surroundings S Ask Reply}
    {serve : S → (q : Ask) → Reply q × S}
    (hserve : ∀ s q, around s q (serve s q).1 (serve s q).2) (s : S) (ops : List Operation) :
    Session around s (playAll serve s ops).1 (playAll serve s ops).2 := by
  induction ops generalizing s with
  | nil => exact .start
  | cons op rest ih =>
      obtain ⟨hends, hanswered⟩ := play_ends hserve s op.procedure.run
      exact (Session.next .start hends hanswered : Session around s [⟨op, _, _⟩] _).trans (ih _)

lemma op_of_mem_playAll {S : Type} {serve : S → (q : Ask) → Reply q × S} {s : S}
    {ops : List Operation} {f : Finished} (hf : f ∈ (playAll serve s ops).1) : f.op ∈ ops := by
  induction ops generalizing s with
  | nil => cases hf
  | cons op rest ih =>
      rcases List.mem_cons.mp hf with rfl | hf
      · exact List.mem_cons_self
      · exact List.mem_cons_of_mem _ (ih hf)

variable {mayFail : Request → Prop} {ttl : Nat} {w w' : World Bank}

/-! ## Coherence -/

/-- What the cache keeps is the configuration of the registers. -/
def Coherent (w : World Bank) : Prop :=
  ∀ c since, w.cache.kept = some (c, since) → Registers.config w.device = .ok c

lemma coherent_of_empty (h : w.cache = .empty) : Coherent w := by
  intro c since hkept
  rw [h, Cache.empty] at hkept
  cases hkept

/-- **In a coherent world the configuration that is looked up is the one of the registers.** -/
theorem Coherent.cached {es : List Line} {c : DeviceConfig} (hw : Coherent w)
    (h : Answered (World.Replies (Registers.Answers mayFail) ttl) w es w')
    (htells : Tells cachedConfig es (.ok c)) : Registers.config w.device = .ok c := by
  rcases tells_cachedConfig.mp htells with ⟨c', rfl, hc⟩ | ⟨_, _, _, -, -, hc⟩ |
    ⟨g, reads, c', rfl, hreads, hc⟩
  · obtain rfl := Except.ok.inj hc
    obtain ⟨t, hrecall⟩ := lookUp_of_answered h
    obtain ⟨since, hkept⟩ := lookUp_fresh hrecall
    exact hw c since hkept
  · cases hc
  · obtain rfl := Except.ok.inj hc
    obtain ⟨w₁, hlookUp, hrest⟩ := answered_cons.mp h
    obtain ⟨w₂, hanswered, -⟩ := answered_append.mp hrest
    rw [← config_of_answered hanswered hreads, device_of_replies hlookUp]
    rfl

/-- Where a configuration comes from that is kept after the account of one operation: it was kept
before, or it is the configuration of the registers at some point; and nothing was forgotten
since. -/
lemma kept_of_account {es : List Line}
    (h : Answered (World.Replies (Registers.Answers mayFail) ttl) w es w') (hes : Refreshed es)
    {c : DeviceConfig} {since : Nat} (hkept : w'.cache.kept = some (c, since)) :
    ∃ before after, es = before ++ after ∧ (∀ e ∈ after, e.forgets = false) ∧
      ((before = [] ∧ w.cache.kept = some (c, since)) ∨
        Registers.config (Registers.after w.device before) = .ok c) := by
  rcases kept_of_answered h hkept with ⟨hstart, hnone⟩ | ⟨before, g, after, rfl, hnone, -⟩
  · exact ⟨[], es, rfl, forgettings_eq_zero.mp hnone, .inl ⟨rfl, hstart⟩⟩
  obtain ⟨earlier, reads, rfl, hreads⟩ := hes before g c after rfl
  refine ⟨earlier, ⟨.lookUp, .stale g⟩ :: (reads ++ ⟨.keep g c, ()⟩ :: after), by simp, ?_, .inr ?_⟩
  · simp only [List.mem_cons, List.mem_append]
    rintro e (rfl | he | rfl | he)
    · rfl
    · exact Exchange.forgets_of_quiet (quiet_consults.readConfig _ _ hreads e he)
    · rfl
    · exact forgettings_eq_zero.mp hnone e he
  · -- The six reads met the registers as they were at the look-up.
    rw [List.append_assoc, List.cons_append] at h
    obtain ⟨w₁, hearlier, hrest⟩ := answered_append.mp h
    obtain ⟨w₂, hlookUp, hrest⟩ := answered_cons.mp hrest
    obtain ⟨w₃, hanswered, -⟩ := answered_append.mp hrest
    have hdevice : w₂.device = Registers.after w.device earlier :=
      (device_of_replies hlookUp).trans (device_of_answered hearlier)
    rw [← hdevice]
    exact config_of_answered hanswered hreads

/-- An account that leaves nothing unsettled leaves a kept configuration that is the one of the
registers, unless it has changed neither. -/
lemma kept_of_settled {es : List Line}
    (h : Answered (World.Replies (Registers.Answers mayFail) ttl) w es w') (hes : Refreshed es)
    (hsettled : ¬ Unsettled es) {c : DeviceConfig} {since : Nat}
    (hkept : w'.cache.kept = some (c, since)) :
    Registers.config w'.device = .ok c ∨
      (w.cache.kept = some (c, since) ∧ w'.device = w.device ∧ ∀ e ∈ es, e.forgets = false) := by
  obtain ⟨before, after, rfl, hnone, hsource⟩ := kept_of_account h hes hkept
  have hstores : ∀ e ∈ after, e.stores = false := by
    intro e he
    rw [Bool.eq_false_iff]
    intro hstores
    obtain ⟨front, back, rfl⟩ := List.append_of_mem he
    refine hsettled (unsettled_append.mpr (.inl ⟨front, e, back, rfl, hstores, ?_⟩))
    exact fun x hx => hnone x (List.mem_append_right _ (List.mem_cons_of_mem _ hx))
  have hdevice : w'.device = Registers.after w.device before := by
    rw [device_of_answered h, Registers.after_append, Registers.after_of_no_store hstores]
  rcases hsource with ⟨rfl, hstart⟩ | hconfig
  · exact .inr ⟨hstart, hdevice, hnone⟩
  · rw [hdevice]
    exact .inl hconfig

/-- **One operation keeps the cache coherent**, unless it leaves a write unsettled. -/
theorem Coherent.next {es : List Line} (hw : Coherent w)
    (h : Answered (World.Replies (Registers.Answers mayFail) ttl) w es w') (hes : Refreshed es)
    (hsettled : ¬ Unsettled es) : Coherent w' := by
  intro c since hkept
  rcases kept_of_settled h hes hsettled hkept with hconfig | ⟨hstart, hdevice, -⟩
  · exact hconfig
  · rw [hdevice]
    exact hw c since hstart

/-! ## Sessions -/

/-- **Where a session can have come to** that began with an empty cache: the cache tells what a
reading of the registers would now find; or some operation has failed after one of its writes was
accepted, and nobody has forgotten anything since that write. -/
theorem coherent_or_failed {log : List Finished}
    (session : Session (World.Replies (Registers.Answers mayFail) ttl) w log w')
    (hstart : w.cache = .empty) {c : DeviceConfig} {since : Nat}
    (hkept : w'.cache.kept = some (c, since)) :
    Registers.config w'.device = .ok c ∨
      ∃ log₁ f log₂, log = log₁ ++ f :: log₂ ∧ f.Failed ∧ Unsettled f.account ∧
        ∀ g ∈ log₂, ∀ e ∈ g.account, e.forgets = false := by
  induction session generalizing c since with
  | start => exact .inl (coherent_of_empty hstart c since hkept)
  | @next log w₁ w₂ f before tells answered ih =>
      by_cases hunsettled : Unsettled f.account
      · exact .inr ⟨log, f, [], rfl, (Operation.unsettled tells hunsettled).1, hunsettled, by simp⟩
      have hrefreshed := f.op.refreshed _ _ tells
      rcases kept_of_settled answered hrefreshed hunsettled hkept with
        hconfig | ⟨hearlier, hdevice, hnone⟩
      · exact .inl hconfig
      rw [hdevice]
      rcases ih hearlier with hconfig | ⟨log₁, g, log₂, rfl, hfailed, hleft, hrest⟩
      · exact .inl hconfig
      · refine .inr ⟨log₁, g, log₂ ++ [f], by simp, hfailed, hleft, ?_⟩
        intro k hk
        simp only [List.mem_append] at hk
        rcases hk with hk | hk
        · exact hrest k hk
        · simp only [List.mem_singleton] at hk
          subst hk
          exact hnone

/-- Refuses the battery capacity. -/
def refuses : Request → Bool
  | .writeWord address _ => address == Register.batteryCapacity.address
  | _ => false

/-- A look at the configuration, and then a new battery profile. -/
def lookThenUpdate : List Operation :=
  [.config, .updateProfile ⟨some .gel, some 150⟩]

/-- When no write is refused, what is kept after the update is the new configuration. -/
theorem coherent_after_update :
    let played := playAll (World.serve (fun _ => false) 60000) World.sample lookThenUpdate
    ∃ c since, played.2.cache.kept = some (c, since) ∧
      Registers.config played.2.device = .ok c := by
  intro played
  have hkept : played.2.cache.kept.isSome = true := by decide +kernel
  have hall : (played.1.all fun f => f.result.isOk) = true := by decide +kernel
  obtain ⟨⟨c, since⟩, hkept⟩ := Option.isSome_iff_exists.mp hkept
  have session := playAll_session (World.serve_all 60000) World.sample lookThenUpdate
  refine ⟨c, since, hkept, ?_⟩
  rcases coherent_or_failed session rfl hkept with
    hconfig | ⟨log₁, f, log₂, hlog, ⟨fault, hfault⟩, -⟩
  · exact hconfig
  · have hok := List.all_eq_true.mp hall f (hlog ▸ List.mem_append_cons_self)
    rw [hfault] at hok
    cases hok

/-- **A refused write can leave the cache behind.**  The new battery type is accepted, the capacity
is refused, nothing is forgotten, and the old type stays in the cache. -/
theorem stale_after_refused_write :
    let played := playAll (World.serve refuses 60000) World.sample lookThenUpdate
    World.sample.cache = .empty ∧
      Session (World.Replies (Registers.Answers fun _ => True) 60000) World.sample played.1
        played.2 ∧
      ¬ Coherent played.2 := by
  intro played
  have hkept : played.2.cache.kept.map (·.1.batteryType) = some .userDefined := by
    decide +kernel
  have hregisters : (Registers.config played.2.device).toOption.map (·.batteryType) =
      some .gel := by
    decide +kernel
  have hserve := World.serve_replies (fun r (_ : refuses r = true) => trivial) 60000
  refine ⟨rfl, playAll_session hserve _ _, fun hcoherent => ?_⟩
  obtain ⟨⟨c, since⟩, hc, htype⟩ := Option.map_eq_some_iff.mp hkept
  rw [hcoherent c since hc, Except.toOption, Option.map_some, htype] at hregisters
  cases hregisters

end Settings

end ChargeController
