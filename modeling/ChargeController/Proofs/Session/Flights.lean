import ChargeController.Proofs.Session.History

/-!
# Collections in flight on a bench

Tasks of all kinds go on at once, and any of them may ask for a collection.  A task does so with its
first question or never, so a collection begins once at most; and it is in flight until its task
ends it or is dropped.

* `Dialogue.Avoids` — a question that is not asked wherever replies may lead.
* `Harmless` — a talk about the device, the link to it and the time only.
* `Command.asksFirst` — a command asks for a collection first, or never.
* `InFlight` — a collection that has begun and is not over.
* `Faithful` — what a bench is known to be after a history.
* **`Run.faithful`** — and it is, after any run from the start.
-/

namespace ChargeController

/-! ## Questions that are not asked -/

namespace Dialogue

variable {Ask Ask' : Type} {Reply : Ask → Type} {Reply' : Ask' → Type} {α β : Type}
  {bad : Ask → Prop} {bad' : Ask' → Prop} {d d' : Dialogue Ask Reply α}

/-- A dialogue that asks no question of some kind, whatever it is told. -/
def Avoids (bad : Ask → Prop) : Dialogue Ask Reply α → Prop
  | .done _ => True
  | .ask q next => ¬ bad q ∧ ∀ r, Avoids bad (next r)

lemma Avoids.mono {bad' : Ask → Prop} (hd : d.Avoids bad) (h : ∀ q, bad' q → bad q) :
    d.Avoids bad' := by
  induction d with
  | done a => trivial
  | ask q next ih => exact ⟨mt (h q) hd.1, fun r => ih r (hd.2 r)⟩

lemma Avoids.bind {f : α → Dialogue Ask Reply β} (hd : d.Avoids bad)
    (hf : ∀ a, (f a).Avoids bad) : (Dialogue.bind d f).Avoids bad := by
  induction d with
  | done a => exact hf a
  | ask q next ih => exact ⟨hd.1, fun r => ih r (hd.2 r)⟩

lemma Avoids.map (f : α → β) (hd : d.Avoids bad) : (f <$> d).Avoids bad := by
  rw [← bind_pure_comp]
  exact hd.bind fun _ => trivial

/-- Settling avoids what is avoided by settling each question that is asked. -/
lemma Avoids.settle {answer : (q : Ask) → Dialogue Ask' Reply' (Reply q)} (hd : d.Avoids bad)
    (hanswer : ∀ q, ¬ bad q → (answer q).Avoids bad') : (Dialogue.settle answer d).Avoids bad' := by
  induction d with
  | done a => trivial
  | ask q next ih => exact (hanswer q hd.1).bind fun r => ih r (hd.2 r)

lemma avoids_nothing (d : Dialogue Ask Reply α) : d.Avoids fun _ => False := by
  induction d with
  | done a => trivial
  | ask q next ih => exact ⟨id, ih⟩

lemma Avoids.leads {es : List (Exchange Ask Reply)} (hd : d.Avoids bad) (h : Leads d es d') :
    d'.Avoids bad := by
  induction h with
  | stay d => exact hd
  | ask rest ih => exact ih (hd.2 _)

end Dialogue

namespace Monitor

open Dialogue

/-- A question that is not whether a collection may begin. -/
lemma avoids_ask {α : Type} {q : Ask} {next : Reply q → Talk α} (hq : q ≠ .begin)
    (hnext : ∀ r, (next r).Avoids (· = .begin)) :
    Avoids (· = Ask.begin) (Dialogue.bind (ask q) next) :=
  ⟨hq, hnext⟩

lemma avoids_publish (metrics : List Metric) : (publish metrics).Avoids (· = .begin) := by
  induction metrics with
  | nil => trivial
  | cons metric rest ih => exact avoids_ask (by simp) fun _ => ih

lemma avoids_succeed (s : Snapshot) : (succeed s).Avoids (· = .begin) := by
  refine avoids_ask (by simp) fun _ => avoids_ask (by simp) fun _ => ?_
  exact (avoids_publish _).bind fun _ => avoids_ask (by simp) fun _ => trivial

lemma avoids_fail : fail.Avoids (· = .begin) := by
  refine avoids_ask (by simp) fun _ => avoids_ask (by simp) fun _ => ?_
  exact (avoids_publish _).bind fun _ => avoids_ask (by simp) fun _ => trivial

/-- What a collection does once it has been told whether it may begin. -/
def begun : Bool → Talk CollectionResult
  | true => do
      match ← ask .gather with
      | some (.ok s) => succeed s
      | some (.error _) => fail
      | none => fail
  | false => return .skipped

lemma collecting_eq : collecting = Dialogue.ask Ask.begin begun := by
  refine congrArg (Dialogue.ask Ask.begin) (funext fun may => ?_)
  cases may with
  | true => rfl
  | false => rfl

lemma avoids_begun (may : Bool) : (begun may).Avoids (· = .begin) := by
  cases may with
  | true =>
      refine avoids_ask (by simp) fun gathered => ?_
      match gathered with
      | some (.ok s) => exact avoids_succeed s
      | some (.error _) => exact avoids_fail
      | none => exact avoids_fail
  | false => trivial

end Monitor

namespace Session

open Dialogue

variable {α β : Type}

/-! ## Talks with a device -/

/-- A question that is about more than the device, the link to it and the time, or that has a
deadline. -/
def Ask.meddles : Ask → Prop
  | .act (.answer _) => False
  | .act .latency => False
  | .act .leave => False
  | .act .isClosed => False
  | .act .close => False
  | .act .now => False
  | .act .unixTime => False
  | .act _ => True
  | .wait _ deadline => deadline ≠ none

/-- A talk that is about the device, the link to it and the time only, and has no deadline. -/
abbrev Harmless (t : Talk α) : Prop :=
  t.Avoids Ask.meddles

lemma harmless_wait {w : Wait} {next : Woken → Talk α} (hnext : ∀ r, Harmless (next r)) :
    Harmless (Dialogue.bind (wait w) next) :=
  ⟨fun h => h rfl, hnext⟩

lemma harmless_sleep (milliseconds : Nat) : Harmless (sleep milliseconds) :=
  harmless_wait fun _ => trivial

lemma harmless_rest (milliseconds : Nat) : Harmless (rest milliseconds) := by
  refine harmless_wait fun woken => ?_
  cases woken with
  | inTime => trivial
  | closed => trivial
  | expired => trivial

lemma harmless_settleClient (timeout : Nat) (q : Client.Ask) :
    Harmless (settleClient timeout q) := by
  cases q with
  | isClosed => exact ⟨id, fun _ => trivial⟩
  | close => exact ⟨id, fun _ => trivial⟩
  | acquire => exact harmless_wait fun _ => trivial
  | attempt r =>
      refine ⟨id, fun latency => (harmless_rest _).bind fun rested => ?_⟩
      cases rested with
      | none => trivial
      | some _ =>
          dsimp only
          split
          · exact ⟨id, fun _ => trivial⟩
          · trivial
  | rest milliseconds => exact harmless_rest milliseconds
  | disconnect => trivial
  | release => exact ⟨id, fun _ => trivial⟩

lemma harmless_transport (client : Option LinkSettings) (r : Request) :
    Harmless (transport client r) := by
  cases client with
  | none =>
      refine ⟨id, fun latency => (harmless_sleep _).bind fun _ => ?_⟩
      exact ⟨id, fun _ => trivial⟩
  | some s => exact (avoids_nothing _).settle fun q _ => harmless_settleClient s.timeout q

lemma harmless_close (client : Option LinkSettings) : Harmless (close client) := by
  cases client with
  | none => trivial
  | some s => exact (avoids_nothing _).settle fun q _ => harmless_settleClient s.timeout q

/-- **A collection is about the device, the link to it and the time only.** -/
theorem harmless_collection (client : Option LinkSettings)
    (p : Collection.Procedure Snapshot) : Harmless (collection client p) := by
  refine (avoids_nothing _).settle fun q _ => ?_
  cases q with
  | send r => exact harmless_transport client r
  | pause milliseconds => exact harmless_sleep milliseconds
  | now => exact ⟨id, fun _ => trivial⟩
  | unixTime => exact ⟨id, fun _ => trivial⟩

/-! ## Who asks for a collection -/

/-- A talk that asks for no collection. -/
abbrev NeverBegins (t : Talk α) : Prop :=
  t.Avoids (· = .act .begin)

lemma neverBegins_act {a : Act} {next : a.Reply → Talk α} (ha : Ask.act a ≠ .act .begin)
    (hnext : ∀ r, NeverBegins (next r)) : NeverBegins (Dialogue.bind (act a) next) :=
  ⟨ha, hnext⟩

lemma neverBegins_of_harmless {t : Talk α} (ht : Harmless t) : NeverBegins t :=
  ht.mono fun _ hq => hq ▸ trivial

lemma neverBegins_settings (client : Option LinkSettings) (p : Settings.Procedure α) :
    NeverBegins (settings client p) := by
  refine (avoids_nothing _).settle fun q _ => ?_
  cases q with
  | send r => exact neverBegins_of_harmless (harmless_transport client r)
  | lookUp => exact neverBegins_act (by simp) fun _ => trivial
  | keep generation config => exact neverBegins_act (by simp) fun _ => trivial
  | forget => exact neverBegins_act (by simp) fun _ => trivial
  | countWriteFailure => exact neverBegins_act (by simp) fun _ => trivial

/-- A deadline makes a task ask for nothing but the link back. -/
lemma neverBegins_within {t : Talk α} (ht : NeverBegins t) (deadline : Nat) :
    NeverBegins (within deadline t) := by
  induction t with
  | done a => trivial
  | ask q next ih =>
      cases q with
      | act a => exact ⟨ht.1, fun r => ih r (ht.2 r)⟩
      | wait w other =>
          refine ⟨by simp, fun woken => ?_⟩
          cases woken with
          | inTime => exact ih _ (ht.2 _)
          | closed => exact ih _ (ht.2 _)
          | expired => exact neverBegins_act (by simp) fun _ => trivial

/-- What a monitored collection does once it has been told whether it may begin. -/
def begun (client : Option LinkSettings) (deadline : Nat) (p : Collection.Procedure Snapshot)
    (may : Bool) : Talk CollectionResult :=
  (Monitor.begun may).settle (settleMonitor client deadline p)

lemma collecting_eq (client : Option LinkSettings) (deadline : Nat)
    (p : Collection.Procedure Snapshot) :
    collecting client deadline p = .ask (.act .begin) (begun client deadline p) := by
  rw [collecting, Monitor.collecting_eq]
  rfl

lemma neverBegins_begun (client : Option LinkSettings) (deadline : Nat)
    (p : Collection.Procedure Snapshot) (may : Bool) :
    NeverBegins (begun client deadline p may) := by
  refine (Monitor.avoids_begun may).settle fun q hq => ?_
  cases q with
  | begin => exact absurd rfl hq
  | gather =>
      refine neverBegins_act (by simp) fun started => ?_
      exact neverBegins_within (neverBegins_of_harmless (harmless_collection client p)) _
  | note n => exact neverBegins_act (by simp) fun _ => trivial
  | unixTime => exact neverBegins_act (by simp) fun _ => trivial
  | finish => exact neverBegins_act (by simp) fun _ => trivial

/-- A talk that asks for a collection with its first question, or never. -/
def AsksFirst (t : Talk α) : Prop :=
  NeverBegins t ∨ ∃ next, t = .ask (.act .begin) next ∧ ∀ r, NeverBegins (next r)

/-- What the task of a collection does once it has been told whether it may begin. -/
def Controller.collects (c : Controller) (may : Bool) : Talk Outcome :=
  .collected <$> begun c.client c.deadline (Collection.collect c.strategy c.recovery) may

lemma Command.talk_collect (c : Controller) :
    Command.collect.talk c = .ask (.act .begin) c.collects := by
  rw [Command.talk, collecting_eq]
  rfl

/-- **A command asks for a collection with its first question, or never.** -/
theorem Command.asksFirst (c : Controller) (x : Command) : AsksFirst (x.talk c) := by
  cases x with
  | collect => exact .inr ⟨_, talk_collect c, fun may => (neverBegins_begun _ _ _ may).map _⟩
  | sleep milliseconds =>
      exact .inl (neverBegins_of_harmless ((harmless_sleep _).bind fun _ => trivial))
  | script change => exact .inl (neverBegins_act (by simp) fun _ => trivial)
  | holdingWord address => exact .inl (neverBegins_act (by simp) fun _ => trivial)
  | writes => exact .inl (neverBegins_act (by simp) fun _ => trivial)
  | read t a q => exact .inl (neverBegins_of_harmless ((harmless_transport _ _).map _))
  | writeWord a value => exact .inl (neverBegins_of_harmless ((harmless_transport _ _).map _))
  | writeBlock a q data =>
      refine .inl (Avoids.map _ ?_)
      unfold Command.writeBlockTalk
      split
      · exact neverBegins_of_harmless (harmless_transport _ _)
      · trivial
  | close => exact .inl (neverBegins_of_harmless ((harmless_close _).bind fun _ => trivial))
  | retryPolicy => exact .inl trivial
  | describeClient => exact .inl (neverBegins_act (by simp) fun _ => trivial)
  | status => exact .inl (neverBegins_of_harmless ((harmless_collection _ _).map _))
  | latest => exact .inl (neverBegins_act (by simp) fun _ => trivial)
  | identity => exact .inl trivial
  | exposition => exact .inl (neverBegins_act (by simp) fun _ => trivial)
  | invalidate => exact .inl (neverBegins_act (by simp) fun _ => trivial)
  | ttl => exact .inl trivial
  | unreadable => exact .inl trivial
  | _ => exact .inl ((neverBegins_settings _ _).map _)

/-! ## Collections in flight -/

/-- A collection is in flight: it has begun, and has neither ended nor been dropped. -/
def InFlight (n : Nat) (h : History) : Prop :=
  (∃ time, (time, .told n ⟨.begin, true⟩) ∈ h) ∧ (∀ time, (time, .told n ⟨.finish, ()⟩) ∉ h) ∧
    ∀ time, (time, .dropped n) ∉ h

/-- A task has not asked anything yet. -/
def Silent (n : Nat) (h : History) : Prop :=
  ∀ time e, (time, .told n e) ∉ h

/-- The monitor of a bench knows which collection is in flight. -/
def Tracks (h : History) (b : Bench) : Prop :=
  ∀ n, b.monitor.running = some n ↔ InFlight n h

section

variable {h : History} {b b' : Bench} {n m time : Nat} {x : Happening} {a : Act} {r : a.Reply}

lemma inFlight_concat_of_ne (hx : x.task? ≠ some n) :
    InFlight n (h ++ [(time, x)]) ↔ InFlight n h := by
  have hne {y : Happening} (hy : y.task? = some n) : y ≠ x := by
    rintro rfl
    exact hx hy
  simp [InFlight, hne (y := .told n _) rfl, hne (y := .dropped n) rfl]

lemma inFlight_concat_told {e : Exchange Act Act.Reply} (hbegins : e ≠ ⟨.begin, true⟩)
    (hfinishes : e ≠ ⟨.finish, ()⟩) :
    InFlight n (h ++ [(time, .told m e)]) ↔ InFlight n h := by
  simp [InFlight, hbegins.symm, hfinishes.symm]

lemma inFlight_begin (hsilent : Silent n h) (hkept : ∀ time, (time, .dropped n) ∉ h) :
    InFlight n (h ++ [(time, .told n ⟨.begin, true⟩)]) := by
  have hgoes (time : Nat) := hsilent time ⟨.finish, ()⟩
  have hne : (⟨.finish, ()⟩ : Exchange Act Act.Reply) ≠ ⟨.begin, true⟩ := nofun
  simp [InFlight, hkept, hgoes, hne]

lemma not_inFlight_finish : ¬ InFlight n (h ++ [(time, .told n ⟨.finish, ()⟩)]) :=
  fun hflight => hflight.2.1 time (by simp)

lemma not_inFlight_dropped : ¬ InFlight n (h ++ [(time, .dropped n)]) :=
  fun hflight => hflight.2.2 time (by simp)

/-! ## What a monitor knows -/

@[simp] lemma monitor_leave (b : Bench) (n : Nat) : (b.leave n).monitor = b.monitor := by
  unfold Bench.leave
  dsimp only
  split
  · split_ifs
    · rfl
    · exact Bench.monitor_wake ..
  · rfl

@[simp] lemma monitor_close (b : Bench) : b.close.monitor = b.monitor :=
  Bench.monitor_foldl (fun b n => Bench.monitor_wake b n .closed) _ _

@[simp] lemma monitor_beginWait (b : Bench) (self : Nat) (deadline : Option Nat) (w : Wait) :
    (b.beginWait self deadline w).2.monitor = b.monitor := by
  cases w with
  | sleep milliseconds => rfl
  | pause milliseconds =>
      simp only [Bench.beginWait]
      split_ifs
      · rfl
      · rfl
  | link =>
      simp only [Bench.beginWait]
      split_ifs
      · rfl
      · rfl
      · rfl

@[simp] lemma monitor_finish {outcome : Outcome} : (b.finish n outcome).monitor = b.monitor := by
  unfold Bench.finish
  split
  · rfl
  · rfl

lemma running_drop_eq (monitor : Monitor) (n : Nat) :
    (monitor.drop n).running = if monitor.running = some n then none else monitor.running := by
  unfold Monitor.drop
  split_ifs
  · rfl
  · rfl

/-- Only who begins or ends a collection changes which one is running. -/
lemma running_reply (hbegin : a ≠ .begin) (hfinish : a ≠ .finish) :
    (b.reply n a).2.monitor.running = b.monitor.running := by
  cases a with
  | begin => exact absurd rfl hbegin
  | finish => exact absurd rfl hfinish
  | leave => exact congrArg Monitor.running (monitor_leave b n)
  | close => exact congrArg Monitor.running (monitor_close b)
  | note x => cases x <;> rfl
  | _ => rfl

/-- Who ends a collection, or is dropped, has none in flight any more. -/
lemma tracks_over (hb : Tracks h b) (hx : x.task? = some n)
    (hover : ¬ InFlight n (h ++ [(time, x)])) (hdrops : b'.monitor = b.monitor.drop n) :
    Tracks (h ++ [(time, x)]) b' := by
  intro m
  rw [hdrops, running_drop_eq]
  by_cases hm : m = n
  · subst hm
    split_ifs with hrunning
    · simp [hover]
    · simp [hover, hrunning]
  · rw [inFlight_concat_of_ne (by simpa [hx] using Ne.symm hm), ← hb m]
    split_ifs with hrunning
    · simp [hrunning, Ne.symm hm]
    · rfl

/-- A monitor keeps track of what a task asks that does not begin. -/
lemma tracks_told (n time : Nat) (hb : Tracks h b) (hbegin : a ≠ .begin) :
    Tracks (h ++ [(time, .told n ⟨a, (b.reply n a).1⟩)]) (b.reply n a).2 := by
  by_cases hfinish : a = .finish
  · subst hfinish
    exact tracks_over hb rfl not_inFlight_finish rfl
  · intro m
    rw [running_reply hbegin hfinish, inFlight_concat_told ?_ ?_]
    · exact hb m
    · exact fun heq => hbegin (congrArg Exchange.question heq)
    · exact fun heq => hfinish (congrArg Exchange.question heq)

lemma free_iff (hb : Tracks h b) : b.monitor.running = none ↔ ∀ m, ¬ InFlight m h := by
  rw [Option.eq_none_iff_forall_ne_some]
  exact forall_congr' fun m => not_congr (hb m)

lemma begin_of_none (hnone : b.monitor.running = none) :
    b.reply n .begin = (true, { b with monitor := { b.monitor with running := some n } }) := by
  simp only [Bench.reply, Monitor.begin?, hnone]
  rfl

lemma begin_of_some (hsome : b.monitor.running = some m) : b.reply n .begin = (false, b) := by
  simp only [Bench.reply, Monitor.begin?, hsome]
  rfl

/-- A monitor keeps track of a collection that begins. -/
lemma tracks_begun (time : Nat) (hb : Tracks h b) (hnone : b.monitor.running = none)
    (hsilent : Silent n h) (hkept : ∀ time, (time, .dropped n) ∉ h) :
    Tracks (h ++ [(time, .told n ⟨.begin, true⟩)])
      { b with monitor := { b.monitor with running := some n } } := by
  intro m
  by_cases hm : m = n
  · subst hm
    simp [inFlight_begin hsilent hkept]
  · rw [inFlight_concat_of_ne (by simpa [Happening.task?] using Ne.symm hm)]
    simp [(free_iff hb).mp hnone m, Ne.symm hm]

lemma refused_ne_begun : (⟨.begin, false⟩ : Exchange Act Act.Reply) ≠ ⟨.begin, true⟩ := by
  intro heq
  injection heq with _ hreply
  cases hreply

/-- A collection that is refused changes nothing. -/
lemma tracks_refused (n time : Nat) (hb : Tracks h b) :
    Tracks (h ++ [(time, .told n ⟨.begin, false⟩)]) b := by
  intro m
  rw [inFlight_concat_told refused_ne_begun nofun]
  exact hb m

/-- The monitor keeps track of a task that goes on and does not ask for a collection. -/
lemma tracks_resume (n time : Nat) {talk : Talk Outcome} (ht : NeverBegins talk)
    (hb : Tracks h b) :
    Tracks (h ++ (Bench.heard n talk b).map fun e => (time, .told n e))
      (Bench.resume n talk b) := by
  induction talk generalizing h b with
  | done outcome =>
      intro m
      rw [Bench.resume, monitor_finish, Bench.heard, List.map_nil, List.append_nil]
      exact hb m
  | ask q next ih =>
      cases q with
      | act a =>
          have hbegin : a ≠ .begin := fun heq => ht.1 (congrArg Ask.act heq)
          have htold := tracks_told n time hb hbegin
          have hafter := ih (b.reply n a).1 (ht.2 _) htold
          rwa [List.append_assoc] at hafter
      | wait w deadline =>
          rw [Bench.heard, Bench.resume.eq_def]
          dsimp only
          have hmonitor := monitor_beginWait b n deadline w
          rcases hwait : b.beginWait n deadline w with ⟨woken | wake, b₁⟩
          · rw [hwait] at hmonitor
            refine ih woken (ht.2 _) fun m => ?_
            rw [show b₁.monitor = b.monitor from hmonitor]
            exact hb m
          · rw [hwait] at hmonitor
            intro m
            rw [List.map_nil, List.append_nil, ← hb m]
            exact Eq.congr_left (congrArg Monitor.running hmonitor)

section

variable {next : Bool → Talk Outcome}

lemma heard_begin : Bench.heard n (.ask (.act .begin) next) b =
    (fun x : Bool × Bench => ⟨.begin, x.1⟩ :: Bench.heard n (next x.1) x.2) (b.reply n .begin) :=
  rfl

lemma resume_begin : Bench.resume n (.ask (.act .begin) next) b =
    (fun x : Bool × Bench => Bench.resume n (next x.1) x.2) (b.reply n .begin) :=
  rfl

lemma begins_of_none (hnone : b.monitor.running = none) :
    let begun := { b with monitor := { b.monitor with running := some n } }
    Bench.heard n (.ask (.act .begin) next) b =
        ⟨.begin, true⟩ :: Bench.heard n (next true) begun ∧
      Bench.resume n (.ask (.act .begin) next) b = Bench.resume n (next true) begun := by
  rw [heard_begin, resume_begin, begin_of_none hnone]
  exact ⟨rfl, rfl⟩

lemma refused_of_some (hsome : b.monitor.running = some m) :
    Bench.heard n (.ask (.act .begin) next) b =
        ⟨.begin, false⟩ :: Bench.heard n (next false) b ∧
      Bench.resume n (.ask (.act .begin) next) b = Bench.resume n (next false) b := by
  rw [heard_begin, resume_begin, begin_of_some hsome]
  exact ⟨rfl, rfl⟩

end

/-- The monitor keeps track of a task that begins a collection with its first question. -/
lemma tracks_resume_first (n time : Nat) {next : Bool → Talk Outcome}
    (hnext : ∀ may, NeverBegins (next may)) (hb : Tracks h b) (hsilent : Silent n h)
    (hkept : ∀ time, (time, .dropped n) ∉ h) :
    Tracks (h ++ (Bench.heard n (.ask (.act .begin) next) b).map fun e => (time, .told n e))
      (Bench.resume n (.ask (.act .begin) next) b) := by
  cases hrunning : b.monitor.running with
  | none =>
      obtain ⟨hheard, hresume⟩ := begins_of_none hrunning
      have hafter := tracks_resume n time (hnext true)
        (tracks_begun time hb hrunning hsilent hkept)
      rw [hheard, hresume]
      rwa [List.append_assoc] at hafter
  | some k =>
      obtain ⟨hheard, hresume⟩ := refused_of_some hrunning
      have hafter := tracks_resume n time (hnext false) (tracks_refused n time hb)
      rw [hheard, hresume]
      rwa [List.append_assoc] at hafter

end

/-! ## What a history tells about a bench -/

/-- How far a task may have come, given what has happened. -/
def Stands (n : Nat) (h : History) : Progress → Prop
  | .ready talk => AsksFirst talk ∧ (NeverBegins talk ∨ Silent n h)
  | .waiting pending => ∀ woken, NeverBegins (pending.next woken)
  | .ended _ => True

/-- What a bench is known to be after a history. -/
structure Faithful (h : History) (b : Bench) : Prop where
  sound : b.Sound
  known : ∀ x ∈ h, ∀ n ∈ x.2.task?, n < b.nextTask
  gone : ∀ time n, (time, .dropped n) ∈ h → b.task? n = none
  tracks : Tracks h b
  stands : ∀ n t, b.task? n = some t → Stands n h t.progress

section

variable {h h' : History} {b b' : Bench} {n m : Nat} {rest : List Nat} {talk : Talk Outcome}
  {progress : Progress} {pending : Pending} {awaited : Bool}

lemma AsksFirst.leads_wait {es : List (Exchange Ask Reply)} {w : Wait} {deadline : Option Nat}
    {next : Woken → Talk Outcome} (ht : AsksFirst talk)
    (hleads : Leads talk es (.ask (.wait w deadline) next)) (woken : Woken) :
    NeverBegins (next woken) := by
  rcases ht with hnever | ⟨first, rfl, hfirst⟩
  · exact (hnever.leads hleads).2 woken
  · cases hleads with
    | ask rest => exact ((hfirst _).leads rest).2 woken

lemma silent_append : Silent n (h ++ h') ↔ Silent n h ∧ Silent n h' := by
  simp only [Silent, List.mem_append, not_or, forall_and]

/-- What is not told to a task leaves it silent. -/
lemma silent_single {time : Nat} {x : Happening} (hx : ∀ e, x ≠ .told n e) :
    Silent n [(time, x)] := by
  intro time' e htold
  exact hx e (congrArg Prod.snd (List.mem_singleton.mp htold)).symm

@[simp] lemma silent_dropped {time : Nat} : Silent n [(time, .dropped m)] :=
  silent_single fun _ => nofun

@[simp] lemma silent_polled {time : Nat} : Silent n [(time, .polled m)] :=
  silent_single fun _ => nofun

@[simp] lemma silent_signal {time : Nat} {s : Signal} : Silent n [(time, .signal s)] :=
  silent_single fun _ => nofun

@[simp] lemma silent_ended {time : Nat} : Silent n [(time, .ended)] :=
  silent_single fun _ => nofun

/-- What happens to other tasks leaves a task where it is. -/
lemma Stands.append (hp : Stands n h progress) (hsilent : Silent n h') :
    Stands n (h ++ h') progress := by
  cases progress with
  | ready talk =>
      exact ⟨hp.1, hp.2.imp_right fun hsilent' => silent_append.mpr ⟨hsilent', hsilent⟩⟩
  | waiting pending => exact hp
  | ended outcome => trivial

/-- A task that has not been told anything stands where it stood, or has been woken. -/
lemma stands_of_roused (hf : Faithful h b) (hsilent : Silent n h')
    (htask : b'.task? n = b.task? n ∨ Bench.Roused b b' n) {t : Task}
    (ht : b'.task? n = some t) : Stands n (h ++ h') t.progress := by
  rcases htask with hsame | ⟨pending, awaited, woken, hwaits, hready⟩
  · exact (hf.stands n t (hsame ▸ ht)).append hsilent
  · cases hready.symm.trans ht
    have hnever : NeverBegins (pending.next woken) := hf.stands n _ hwaits woken
    exact ⟨.inl hnever, .inl hnever⟩

lemma Faithful.kept (hf : Faithful h b) {t : Task} (ht : b.task? n = some t) (time : Nat) :
    (time, .dropped n) ∉ h := by
  intro hdropped
  cases (hf.gone time n hdropped).symm.trans ht

lemma Faithful.silent_of_new (hf : Faithful h b) (hn : b.nextTask ≤ n) : Silent n h := by
  intro time e htold
  have := hf.known _ htold n rfl
  omega

lemma toldTo_of_ready (hready : b.task? n = some ⟨.ready talk, awaited⟩) :
    b.toldTo n rest =
      (Bench.heard n talk { b with ready := rest }).map fun e => (b.now, .told n e) := by
  simp only [Bench.toldTo, hready]

lemma toldTo_of_not_ready (h : ∀ talk awaited, b.task? n ≠ some ⟨.ready talk, awaited⟩) :
    b.toldTo n rest = [] := by
  unfold Bench.toldTo
  split
  · next talk awaited htask => exact absurd htask (h talk awaited)
  · rfl

lemma silent_toldTo (hm : m ≠ n) : Silent m (b.toldTo n rest) := by
  intro time e htold
  unfold Bench.toldTo at htold
  split at htold
  · simp [Ne.symm hm] at htold
  · cases htold

lemma task?_of_mem_toldTo {x : Nat × Happening} (hx : x ∈ b.toldTo n rest) :
    x.2.task? = some n ∧ x.1 = b.now ∧ ∃ t, b.task? n = some t := by
  unfold Bench.toldTo at hx
  split at hx
  · next htask =>
      obtain ⟨e, -, rfl⟩ := List.mem_map.mp hx
      exact ⟨rfl, rfl, _, htask⟩
  · cases hx

lemma dropped_not_mem_toldTo {time : Nat} : (time, .dropped m) ∉ b.toldTo n rest := by
  intro hdropped
  unfold Bench.toldTo at hdropped
  split at hdropped
  · simp at hdropped
  · cases hdropped

/-- The monitor keeps track of any task that goes on. -/
lemma Faithful.tracks_goOn (hf : Faithful h b) (n : Nat) (rest : List Nat) :
    Tracks (h ++ b.toldTo n rest) (b.goOn n rest) := by
  by_cases hready : ∃ talk awaited, b.task? n = some ⟨.ready talk, awaited⟩
  · obtain ⟨talk, awaited, htask⟩ := hready
    rw [toldTo_of_ready htask, Bench.goOn_of_ready htask]
    have hrest : Tracks h { b with ready := rest } := hf.tracks
    obtain ⟨hfirst, hstands⟩ := hf.stands n _ htask
    rcases hstands with hnever | hsilent
    · exact tracks_resume n b.now hnever hrest
    · rcases hfirst with hnever | ⟨next, rfl, hnext⟩
      · exact tracks_resume n b.now hnever hrest
      · exact tracks_resume_first n b.now hnext hrest hsilent (hf.kept htask)
  · have hnot : ∀ talk awaited, b.task? n ≠ some ⟨.ready talk, awaited⟩ := by simpa using hready
    rw [toldTo_of_not_ready hnot, Bench.goOn_of_not_ready hnot, List.append_nil]
    exact hf.tracks

/-- A task that has gone on asks for no collection any more. -/
lemma Faithful.stands_goOn (hf : Faithful h b) (n : Nat) (rest : List Nat) {t : Task}
    (ht : (b.goOn n rest).task? n = some t) : Stands n (h ++ b.toldTo n rest) t.progress := by
  by_cases hready : ∃ talk awaited, b.task? n = some ⟨.ready talk, awaited⟩
  · obtain ⟨talk, awaited, htask⟩ := hready
    have hfirst := (hf.stands n _ htask).1
    rw [Bench.goOn_of_ready htask] at ht
    obtain ⟨b₁, hrouses, ⟨outcome, hends⟩ | ⟨pending, es, w, deadline, hwaits, hleads, -⟩⟩ :=
      Bench.resume_cases n talk { b with ready := rest }
    · rw [hends] at ht
      rw [Bench.ended_of_finish ht]
      trivial
    · rw [hwaits, Bench.task?_setProgress_self (hrouses.task_of_ready htask)] at ht
      cases ht
      exact hfirst.leads_wait hleads
  · have hnot : ∀ talk awaited, b.task? n ≠ some ⟨.ready talk, awaited⟩ := by simpa using hready
    rw [Bench.goOn_of_not_ready hnot] at ht
    rw [toldTo_of_not_ready hnot, List.append_nil]
    exact hf.stands n t ht

/-- A task that is on no bench any more does not come back when another one goes on. -/
lemma task?_goOn_none (hnone : b.task? m = none) : (b.goOn n rest).task? m = none := by
  by_cases hm : m = n
  · subst hm
    rw [Bench.goOn_of_not_ready (by simp [hnone])]
    exact hnone
  · have hothers := (Bench.goOn_advances b n rest).others m hm
    rcases hothers with hsame | ⟨pending, awaited, woken, hwaits, -⟩
    · rw [hsame, hnone]
    · cases hnone.symm.trans hwaits

lemma Faithful.goOn (hf : Faithful h b) (n : Nat) (rest : List Nat) :
    Faithful (h ++ b.toldTo n rest) (b.goOn n rest) where
  sound := hf.sound.goOn n rest
  known := by
    intro x hx m hm
    rw [(Bench.goOn_advances b n rest).nextTask]
    rcases List.mem_append.mp hx with hx | hx
    · exact hf.known x hx m hm
    · obtain ⟨htask?, -, t, ht⟩ := task?_of_mem_toldTo hx
      rw [htask?] at hm
      cases hm
      exact hf.sound.lt_nextTask ht
  gone := by
    intro time m hdropped
    rcases List.mem_append.mp hdropped with hdropped | hdropped
    · exact task?_goOn_none (hf.gone time m hdropped)
    · exact absurd hdropped dropped_not_mem_toldTo
  tracks := hf.tracks_goOn n rest
  stands := by
    intro m t ht
    by_cases hm : m = n
    · subst hm
      exact hf.stands_goOn m rest ht
    · exact stands_of_roused hf (silent_toldTo hm)
        ((Bench.goOn_advances b n rest).others m hm) ht

/-- Waits have ended, and time may have passed. -/
lemma Faithful.rouses {time : Nat} (hf : Faithful h b)
    (hrouses : Bench.Rouses { b with now := time } b') (hmonitor : b'.monitor = b.monitor)
    (hsound : b'.Sound) : Faithful h b' where
  sound := hsound
  known := by
    rw [hrouses.nextTask]
    exact hf.known
  gone := by
    intro time m hdropped
    exact hrouses.task_none (hf.gone time m hdropped)
  tracks := by
    intro m
    rw [hmonitor]
    exact hf.tracks m
  stands := by
    intro m t ht
    have hstands : Stands m (h ++ []) t.progress :=
      stands_of_roused hf (fun _ _ => List.not_mem_nil) (hrouses.task m) ht
    rwa [List.append_nil] at hstands

/-- A task has been added, and nothing has happened to it yet. -/
lemma Faithful.spawn (hf : Faithful h b) (c : Command) (awaited : Bool) :
    Faithful h (b.spawn c awaited) where
  sound := hf.sound.spawn c awaited
  known := fun x hx m hm => Nat.lt_succ_of_lt (hf.known x hx m hm)
  gone := by
    intro time m hdropped
    have hm : m ≠ b.nextTask := Nat.ne_of_lt (hf.known _ hdropped m rfl)
    rw [Bench.task?_spawn_of_ne hm]
    exact hf.gone time m hdropped
  tracks := hf.tracks
  stands := by
    intro m t ht
    by_cases hm : m = b.nextTask
    · subst hm
      rw [Bench.task?_spawn_self] at ht
      cases ht
      exact ⟨c.asksFirst b.controller, .inr (hf.silent_of_new (Nat.le_refl _))⟩
    · rw [Bench.task?_spawn_of_ne hm] at ht
      exact hf.stands m t ht

/-- The loop has moved. -/
lemma Faithful.withPoller {poller : Option Poller} (hf : Faithful h b)
    (hsound : ({ b with poller } : Bench).Sound) : Faithful h { b with poller } :=
  ⟨hsound, hf.known, hf.gone, hf.tracks, hf.stands⟩

/-- Something is noted that no task has asked for or suffered. -/
lemma Faithful.note {time : Nat} {x : Happening} (hf : Faithful h b)
    (hknown : ∀ n ∈ x.task?, n < b.nextTask) (htold : ∀ n e, x ≠ .told n e)
    (hdropped : ∀ n, x ≠ .dropped n) : Faithful (h ++ [(time, x)]) b where
  sound := hf.sound
  known := by
    intro y hy
    rcases List.mem_append.mp hy with hy | hy
    · exact hf.known y hy
    · rw [List.mem_singleton.mp hy]
      exact hknown
  gone := by
    intro time' n hmem
    rcases List.mem_append.mp hmem with hmem | hmem
    · exact hf.gone time' n hmem
    · simp [Ne.symm (hdropped n)] at hmem
  tracks := by
    intro n
    rw [hf.tracks n]
    simp [InFlight, Ne.symm (htold n _), Ne.symm (hdropped n)]
  stands n t ht := (hf.stands n t ht).append (silent_single (htold n))

lemma added_of_same (hnext : b'.nextTask = b.nextTask) : Bench.added b b' = [] := by
  simp [Bench.added, hnext]

@[simp] lemma looped_poller (b : Bench) (p : Poller) :
    Bench.looped b { b with poller := some p } = [] := by
  simp [Bench.looped, added_of_same]

@[simp] lemma looped_ended (b : Bench) :
    Bench.looped b { b with poller := none } = [(b.now, .ended)] := by
  simp [Bench.looped, added_of_same]

@[simp] lemma looped_spawn (b : Bench) (p : Poller) :
    Bench.looped b { b.spawn .collect false with poller := some p } =
      [(b.now, .polled b.nextTask)] := by
  simp [Bench.looped, Bench.added, Bench.spawn]

/-- A loop that goes on neither asks for a collection nor ends, or ends, or asks for one. -/
lemma looped_cases (h : b.Turned b') :
    (Bench.looped b b' = [] ∧ ∃ p, b' = { b with poller := some p }) ∨
      (Bench.looped b b' = [(b.now, .ended)] ∧ b' = { b with poller := none }) ∨
        Bench.looped b b' = [(b.now, .polled b.nextTask)] ∧
          ∃ p, b' = { b.spawn .collect false with poller := some p } := by
  cases h with
  | begins poller stand value => exact .inl ⟨looped_poller .., _, rfl⟩
  | stops poller stand value => exact .inr (.inl ⟨looped_ended b, rfl⟩)
  | ticks poller stand due => exact .inr (.inr ⟨looped_spawn .., _, rfl⟩)
  | notices poller stand news => exact .inl ⟨looped_poller .., _, rfl⟩
  | closes poller stand abandoned => exact .inr (.inl ⟨looped_ended b, rfl⟩)

/-- The loop goes on. -/
lemma Faithful.turned (hf : Faithful h b) (hturned : b.Turned b') :
    Faithful (h ++ Bench.looped b b') b' := by
  have hsound := hf.sound.turned hturned
  rcases looped_cases hturned with ⟨heq, p, rfl⟩ | ⟨heq, rfl⟩ | ⟨heq, p, rfl⟩
  · rw [heq, List.append_nil]
    exact hf.withPoller hsound
  · rw [heq]
    exact (hf.withPoller hsound).note (by simp [Happening.task?]) (by simp) (by simp)
  · rw [heq]
    refine ((hf.spawn .collect false).withPoller hsound).note ?_ (by simp) (by simp)
    rintro n ⟨⟩
    exact Nat.lt_succ_self _

lemma Faithful.jump (hf : Faithful h b) (hjump : b.jump? = some b') : Faithful h b' := by
  obtain ⟨-, hrouses, hmonitor, -⟩ := Bench.jump_cases hjump
  exact hf.rouses hrouses hmonitor (hf.sound.jump hjump)

lemma Faithful.forgetTask (hf : Faithful h b) : Faithful h (b.forgetTask n) where
  sound := hf.sound.forgetTask
  known := hf.known
  gone := by
    intro time m hdropped
    rw [Bench.task?_forgetTask]
    split_ifs
    · rfl
    · exact hf.gone time m hdropped
  tracks := hf.tracks
  stands := by
    intro m t ht
    rw [Bench.task?_forgetTask] at ht
    split_ifs at ht
    exact hf.stands m t ht

/-- A task is dropped, and its collection is not in flight any more. -/
lemma Faithful.cancel (hf : Faithful h b) (hn : n < b.nextTask) :
    Faithful (h ++ [(b.now, .dropped n)]) (b.cancel n) := by
  have hforgot : Faithful h (b.forgetTask n) := hf.forgetTask
  have hdropped : Faithful (h ++ [(b.now, .dropped n)]) (b.withoutTask n) :=
    { sound := hf.sound.withoutTask
      known := by
        intro x hx m hm
        rcases List.mem_append.mp hx with hx | hx
        · exact hf.known x hx m hm
        · rw [List.mem_singleton.mp hx] at hm
          cases hm
          exact hn
      gone := by
        intro time m hmem
        rcases List.mem_append.mp hmem with hmem | hmem
        · exact hforgot.gone time m hmem
        · cases List.mem_singleton.mp hmem
          exact Bench.task?_forgetTask_self
      tracks := tracks_over hf.tracks rfl not_inFlight_dropped rfl
      stands := by
        intro m t ht
        exact (hforgot.stands m t ht).append silent_dropped }
  exact hdropped.rouses (Bench.Rouses.cancel b n) (monitor_leave (b.withoutTask n) n)
    hf.sound.cancel

lemma Faithful.signal {s : Signal} (hf : Faithful h b) :
    Faithful (h ++ [(b.now, .signal s)]) (b.signal s) :=
  (hf.withPoller (hf.sound.signal s)).note (by simp [Happening.task?]) (by simp) (by simp)

end

/-- **One move keeps a bench faithful to its history.** -/
theorem Move.faithful {h h' : History} {b b' : Bench} (move : Move b h' b') (hf : Faithful h b) :
    Faithful (h ++ h') b' := by
  cases move with
  | goOn ready => exact hf.goOn ..
  | turn turns => exact hf.turned (turns.cases hf.sound.loop)
  | jump ready turn jumps =>
      rw [List.append_nil]
      exact hf.jump jumps
  | spawn c =>
      rw [List.append_nil]
      exact hf.spawn c true
  | forget named =>
      rw [List.append_nil]
      exact hf.forgetTask
  | cancel named => exact hf.cancel named.1
  | signal s => exact hf.signal

/-- **Any run does**, so whatever is in flight is known to the monitor. -/
theorem Run.faithful {h h' : History} {b b' : Bench} (run : Run b h' b') (hf : Faithful h b) :
    Faithful (h ++ h') b' := by
  induction run with
  | start => rwa [List.append_nil]
  | next _ move ih =>
      rw [← List.append_assoc]
      exact move.faithful ih

lemma faithful_start (controller : Controller) (device : Device) :
    Faithful [] (.start controller device) where
  sound := .start controller device
  known := by simp
  gone := by simp
  tracks := by
    intro n
    simp [Bench.start, Monitor.start, InFlight]
  stands := by
    intro n t ht
    cases ht

end Session

end ChargeController
