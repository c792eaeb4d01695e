import ChargeController.Proofs.Dialogue.Transcript
import ChargeController.Session.Bench
import Mathlib.Algebra.BigOperators.Intervals
import Mathlib.Algebra.Order.BigOperators.Group.Finset
import Mathlib.Tactic.IntervalCases

/-!
# The attempts of a request

A request through a client is a number of attempts with pauses between them.  How long an attempt
takes and what it brings is up to the connection; the client cuts it off at the timeout, and it
stops at the first success or when the attempts are used up.

* `Client.tryRequest_eq` — what a request asks next, attempt by attempt.
* `Session.Connection`, `Session.alone` — a task alone on a bench, with any connection to a device.
* `Session.play_transport` — a request on such a bench is its attempts and pauses.
* **`retry_budget`** — how many attempts a request makes, what it brings and how long it takes.
-/

namespace ChargeController

/-! ## What a request asks -/

namespace Client

/-- What follows a pause: another attempt, unless the client was closed. -/
def rested (again : Talk Answer) : Option Unit → Talk Answer
  | none => .done (.error .closed)
  | some () => again

/-- What follows an attempt: the end of the request, or a pause before the next one. -/
def tried (delay : Nat) (r : Request) : Nat → Option Answer → Talk Answer
  | _, none => .done (.error .closed)
  | _, some (.ok data) => .done (.ok data)
  | 0, some (.error fault) => .done (.error fault)
  | more + 1, some (.error _) => .ask (.rest delay) (rested (tryRequest delay r more))

/-- **A request asks for an attempt**, and goes on as its outcome says. -/
theorem tryRequest_eq (delay : Nat) (r : Request) (more : Nat) :
    tryRequest delay r more = .ask (.attempt r) (tried delay r more) := by
  rw [tryRequest.eq_def]
  refine congrArg (Dialogue.ask (Ask.attempt r)) (funext fun outcome => ?_)
  match more, outcome with
  | _, none => rfl
  | _, some (.ok data) => rfl
  | 0, some (.error fault) => rfl
  | more + 1, some (.error fault) =>
      refine congrArg (Dialogue.ask (Ask.rest delay)) (funext fun outcome => ?_)
      match outcome with
      | none => rfl
      | some () => rfl

end Client

namespace Session

open Dialogue

/-! ## Alone on a bench -/

/-- A connection to a device, attempt by attempt: how long the attempt that begins will take, and
what it brings if it is waited for. -/
structure Connection (D : Type) where
  begin : D → Nat × D
  answer : D → Request → Answer × D

/-- What an attempt counts as that is cut off at a timeout, and the connection after it. -/
def Connection.attempt {D : Type} (line : Connection D) (timeout : Nat) (x : D) (r : Request) :
    Answer × D :=
  if (line.begin x).1 ≤ timeout then line.answer (line.begin x).2 r
  else (.error (.timeout timeout), (line.begin x).2)

/-- The same bench some milliseconds later. -/
def Bench.later (b : Bench) (milliseconds : Nat) : Bench :=
  { b with now := b.now + milliseconds }

/-- How a bench replies to the only task that goes on there, if attempts are made on a connection
instead of the bench's own device.  The task may have to queue for the link, behind tasks that are
not heard of otherwise. -/
def alone {D : Type} (line : Connection D) (self queue : Nat) (s : D × Bench) :
    (q : Ask) → Reply q × (D × Bench)
  | .act .latency => ((line.begin s.1).1, ((line.begin s.1).2, s.2))
  | .act (.answer r) => ((line.answer s.1 r).1, ((line.answer s.1 r).2, s.2))
  | .act a => ((s.2.reply self a).1, (s.1, (s.2.reply self a).2))
  | .wait (.sleep milliseconds) _ => (.inTime, (s.1, s.2.later milliseconds))
  | .wait (.pause milliseconds) _ =>
      if s.2.link.closed then (.closed, s) else (.inTime, (s.1, s.2.later milliseconds))
  | .wait .link _ => (.inTime, (s.1, { s.2 with link := s.2.link.acquire self }.later queue))

/-- How it replies to what a client asks. -/
def aloneWithClient {D : Type} (line : Connection D) (self queue timeout : Nat) (s : D × Bench)
    (q : Client.Ask) : Client.Reply q × (D × Bench) :=
  (play (alone line self queue) s (settleClient timeout q)).2

section

variable {D : Type} {line : Connection D} {self queue timeout delay more : Nat} {x : D} {b : Bench}
  {r : Request}

lemma Bench.later_later (b : Bench) (m n : Nat) : (b.later m).later n = b.later (m + n) := by
  simp only [later, Nat.add_assoc]

lemma alone_pause (hopen : b.link.closed = false) (milliseconds : Nat) :
    alone line self queue (x, b) (.wait (.pause milliseconds) none) =
      (.inTime, x, b.later milliseconds) := by
  simp only [alone, hopen, Bool.false_eq_true, if_false]

lemma alone_pause_closed (hclosed : b.link.closed = true) (milliseconds : Nat) :
    alone line self queue (x, b) (.wait (.pause milliseconds) none) = (.closed, x, b) := by
  simp only [alone, hclosed, if_true]

lemma play_rest (hopen : b.link.closed = false) (milliseconds : Nat) :
    (play (alone line self queue) (x, b) (rest milliseconds)).2 =
      (some (), x, b.later milliseconds) := by
  refine (play_ask _ _ (Ask.wait (.pause milliseconds) none) _).trans ?_
  rw [alone_pause hopen]
  rfl

/-- An attempt brings what it counts as, after the time that it has taken until then. -/
lemma play_attempt (hopen : b.link.closed = false) :
    (play (alone line self queue) (x, b) (attempt timeout r)).2 =
      (some (line.attempt timeout x r).1, (line.attempt timeout x r).2,
        b.later (min (line.begin x).1 timeout)) := by
  show (play (alone line self queue) ((line.begin x).2, b)
    (Dialogue.bind (rest (min (line.begin x).1 timeout)) _)).2 = _
  rw [play_bind, play_rest hopen]
  rw [Connection.attempt]
  by_cases hfast : (line.begin x).1 ≤ timeout
  · rw [if_pos hfast]
    dsimp only
    split
    · rfl
    · next hslow => exact absurd hfast hslow
  · rw [if_neg hfast]
    dsimp only
    split
    · next hfast' => exact absurd hfast' hfast
    · rfl

/-- A request goes on as the outcome of its next attempt says. -/
lemma play_tryRequest (hopen : b.link.closed = false) :
    (play (aloneWithClient line self queue timeout) (x, b) (Client.tryRequest delay r more)).2 =
      (play (aloneWithClient line self queue timeout)
        ((line.attempt timeout x r).2, b.later (min (line.begin x).1 timeout))
        (Client.tried delay r more (some (line.attempt timeout x r).1))).2 := by
  have hattempt : aloneWithClient line self queue timeout (x, b) (.attempt r) = _ :=
    play_attempt hopen
  rw [Client.tryRequest_eq]
  refine (play_ask _ _ (Client.Ask.attempt r) _).trans ?_
  rw [hattempt]

/-- A request that has failed, but not for the last time, rests and tries again. -/
lemma play_again (hopen : b.link.closed = false) {fault : BusFault}
    (hfailed : (line.attempt timeout x r).1 = .error fault) :
    (play (aloneWithClient line self queue timeout) (x, b)
        (Client.tryRequest delay r (more + 1))).2 =
      (play (aloneWithClient line self queue timeout)
        ((line.attempt timeout x r).2, (b.later (min (line.begin x).1 timeout)).later delay)
        (Client.tryRequest delay r more)).2 := by
  have hrest : aloneWithClient line self queue timeout
      ((line.attempt timeout x r).2, b.later (min (line.begin x).1 timeout)) (.rest delay) = _ :=
    play_rest (b := b.later _) hopen delay
  rw [play_tryRequest hopen, hfailed]
  refine (play_ask _ _ (Client.Ask.rest delay) _).trans ?_
  rw [hrest]
  rfl

/-- **A request through a client that is open** is its attempts, made while it holds the link. -/
theorem play_transport {s : LinkSettings} (hopen : b.link.closed = false) :
    (play (alone line self queue) (x, b) (transport (some s) r)).2 =
      let held := { b with link := b.link.acquire self }.later queue
      let tried := (play (aloneWithClient line self queue s.timeout) (x, held)
        (Client.tryRequest s.retryDelay r (max s.retryAttempts 1 - 1))).2
      (tried.1, tried.2.1, tried.2.2.leave self) := by
  have hclosed : aloneWithClient line self queue s.timeout (x, b) .isClosed = (false, x, b) := by
    show (b.link.closed, (x, b)) = _
    rw [hopen]
  rw [transport, play_settle]
  refine (play_ask _ _ Client.Ask.isClosed _).trans ?_
  rw [← aloneWithClient.eq_def, hclosed]
  show (play (aloneWithClient line self queue s.timeout)
    (x, { b with link := b.link.acquire self }.later queue)
    (Dialogue.bind (Client.tryRequest s.retryDelay r (max s.retryAttempts 1 - 1)) _)).2 = _
  rw [play_bind]
  rfl

/-- A task that leaves the link moves neither the clock nor the client. -/
lemma leave_keeps (b : Bench) (n : Nat) :
    (b.leave n).now = b.now ∧ (b.leave n).link.closed = b.link.closed := by
  simp only [Bench.leave]
  split
  · split
    · exact ⟨rfl, rfl⟩
    · simp only [Bench.wake]
      split
      · exact ⟨rfl, rfl⟩
      · exact ⟨rfl, rfl⟩
  · exact ⟨rfl, rfl⟩

end

/-! ## The budget -/

/-- Attempts that are laid down beforehand, counted from one: how long each takes and what it
brings. -/
structure Trials where
  took : Nat → Nat
  brought : Nat → Request → Answer

namespace Trials

/-- What an attempt counts as for a client with a timeout. -/
def outcome (t : Trials) (timeout : Nat) (r : Request) (i : Nat) : Answer :=
  if t.took i ≤ timeout then t.brought i r else .error (.timeout timeout)

/-- The connection on which these attempts are made; it counts those that have begun. -/
def connection (t : Trials) : Connection Nat where
  begin n := (t.took (n + 1), n + 1)
  answer n r := (t.brought n r, n)

lemma attempt_connection (t : Trials) (timeout n : Nat) (r : Request) :
    t.connection.attempt timeout n r = (t.outcome timeout r (n + 1), n + 1) := by
  show (if t.took (n + 1) ≤ timeout then _ else _) = _
  rw [outcome]
  split
  · rfl
  · rfl

/-- How long the attempts after the `n`th take, up to the `k`th and with the pauses between them. -/
def span (t : Trials) (timeout delay n k : Nat) : Nat :=
  ∑ i ∈ Finset.Ioc n k, min (t.took i) timeout + (k - n - 1) * delay

lemma span_one (t : Trials) (timeout delay n : Nat) :
    t.span timeout delay n (n + 1) = min (t.took (n + 1)) timeout := by
  rw [span, Nat.Ioc_succ_singleton, Finset.sum_singleton, Nat.add_sub_cancel_left, Nat.sub_self,
    Nat.zero_mul, Nat.add_zero]

lemma span_succ (t : Trials) (timeout delay : Nat) {n k : Nat} (h : n + 1 < k) :
    t.span timeout delay n k =
      min (t.took (n + 1)) timeout + delay + t.span timeout delay (n + 1) k := by
  obtain ⟨m, rfl⟩ := Nat.exists_eq_add_of_lt h
  have hpauses : n + 1 + m + 1 - n - 1 = n + 1 + m + 1 - (n + 1) - 1 + 1 := by omega
  rw [span, span, ← Finset.sum_Ioc_consecutive _ (n.le_add_right 1) (Nat.le_of_lt h),
    Nat.Ioc_succ_singleton, Finset.sum_singleton, hpauses, Nat.succ_mul]
  omega

/-- No attempt takes longer than the timeout. -/
lemma span_le (t : Trials) (timeout delay n k : Nat) :
    t.span timeout delay n k ≤ (k - n) * timeout + (k - n - 1) * delay := by
  refine Nat.add_le_add_right ?_ _
  calc ∑ i ∈ Finset.Ioc n k, min (t.took i) timeout
      ≤ ∑ _i ∈ Finset.Ioc n k, timeout := Finset.sum_le_sum fun i _ => Nat.min_le_right ..
    _ = (k - n) * timeout := by rw [Finset.sum_const_nat fun _ _ => rfl, Nat.card_Ioc]

end Trials

/-- After `n` attempts, a request makes more of them up to the first success, if there is one among
the next `more + 1`. -/
lemma play_trials (t : Trials) (self queue timeout delay : Nat) (r : Request) {b : Bench}
    (hopen : b.link.closed = false) (n more : Nat) :
    ∃ k, n < k ∧ k ≤ n + 1 + more ∧
      (∀ i, n < i → i < k → (t.outcome timeout r i).isOk = false) ∧
      (k = n + 1 + more ∨ (t.outcome timeout r k).isOk = true) ∧
      (play (aloneWithClient t.connection self queue timeout) (n, b)
          (Client.tryRequest delay r more)).2 =
        (t.outcome timeout r k, k, b.later (t.span timeout delay n k)) := by
  have hnone (n i : Nat) (hi : n < i) (hi' : i < n + 1) : (t.outcome timeout r i).isOk = false :=
    absurd hi (Nat.not_lt.mpr (Nat.le_of_lt_succ hi'))
  induction more generalizing n b with
  | zero =>
      refine ⟨n + 1, n.lt_succ_self, Nat.le_refl _, hnone n, .inl rfl, ?_⟩
      rw [play_tryRequest hopen, Trials.attempt_connection, Trials.span_one]
      cases t.outcome timeout r (n + 1) with
      | ok data => rfl
      | error fault => rfl
  | succ more ih =>
      cases hfirst : t.outcome timeout r (n + 1) with
      | ok data =>
          refine ⟨n + 1, n.lt_succ_self, Nat.le_add_right _ _, hnone n, .inr ?_, ?_⟩
          · rw [hfirst]
            rfl
          · rw [play_tryRequest hopen, Trials.attempt_connection, Trials.span_one, hfirst]
            rfl
      | error fault =>
          let rested := (b.later (min (t.took (n + 1)) timeout)).later delay
          obtain ⟨k, hk, hmost, hfailed, hlast, hplay⟩ := ih (b := rested) hopen (n + 1)
          refine ⟨k, Nat.lt_of_succ_lt hk, by omega, fun i hi hik => ?_, ?_, ?_⟩
          · rcases Nat.lt_or_eq_of_le hi with hi | rfl
            · exact hfailed i hi hik
            · rw [hfirst]
              rfl
          · exact hlast.imp_left fun hlast => by omega
          · rw [play_again hopen (by rw [Trials.attempt_connection, hfirst]),
              Trials.attempt_connection, t.span_succ timeout delay hk, ← Bench.later_later,
              ← Bench.later_later]
            exact hplay

/-- **The budget of a request.**  Of the attempts that a client may make, an open one makes those up
to the first success, or all if there is none, and returns what the last one counts as.  From when
it holds the link it takes the time of its attempts, each cut off at the timeout, and of the pauses
between them, which is never more than the budget of a request. -/
theorem retry_budget (s : LinkSettings) (r : Request) (t : Trials) (self queue : Nat) (b : Bench)
    (hopen : b.link.closed = false) :
    let budget := max 1 s.retryAttempts
    let held := b.now + queue
    ∃ k b', (play (alone t.connection self queue) (0, b) (transport (some s) r)).2 =
        (t.outcome s.timeout r k, k, b') ∧
      1 ≤ k ∧ k ≤ budget ∧
      (∀ i, 1 ≤ i → i < k → (t.outcome s.timeout r i).isOk = false) ∧
      (k = budget ∨ (t.outcome s.timeout r k).isOk = true) ∧
      b'.now = held + ∑ i ∈ Finset.Icc 1 k, min (t.took i) s.timeout + (k - 1) * s.retryDelay ∧
      b'.now ≤ held + budget * s.timeout + (budget - 1) * s.retryDelay := by
  intro budget held
  let start := { b with link := b.link.acquire self }.later queue
  obtain ⟨k, hfirst, hmost, hfailed, hlast, hplay⟩ :=
    play_trials t self queue s.timeout s.retryDelay r (b := start) hopen 0
      (max s.retryAttempts 1 - 1)
  have hbudget : 0 + 1 + (max s.retryAttempts 1 - 1) = budget := by omega
  rw [hbudget] at hmost hlast
  refine ⟨k, (start.later (t.span s.timeout s.retryDelay 0 k)).leave self, ?_, hfirst, hmost,
    hfailed, hlast, ?_, ?_⟩
  · rw [play_transport hopen]
    dsimp only
    rw [hplay]
  · rw [(leave_keeps _ _).1]
    exact (Nat.add_assoc ..).symm
  · rw [(leave_keeps _ _).1, Nat.add_assoc held]
    refine Nat.add_le_add_left ((t.span_le _ _ _ _).trans ?_) held
    exact Nat.add_le_add (Nat.mul_le_mul_right _ hmost)
      (Nat.mul_le_mul_right _ (Nat.sub_le_sub_right hmost 1))

/-- The first of these attempts would last too long, and every other one is in time. -/
def slowAtFirst : Trials where
  took i := if i = 1 then 700 else 100
  brought _ _ := .ok [0x05, 0x14]

/-- A client with three attempts of half a second. -/
def patientClient : LinkSettings :=
  { LinkSettings.usual with timeout := 500, retryAttempts := 3, retryDelay := 10 }

/-- A bench on which nothing has happened yet. -/
def quietBench : Bench :=
  .start ⟨⟨"device-1", "epever"⟩, .sequential, 0, 0, 5000, 60000, some patientClient⟩ .empty

/-- A request that has waited 40 milliseconds for the link succeeds with its second attempt, 610
milliseconds later. -/
theorem second_attempt_succeeds :
    quietBench.link.closed = false ∧
      ∃ b', (play (alone slowAtFirst.connection 0 40) (0, quietBench)
          (transport (some patientClient) (.read .input 0x3104 1))).2 =
        (.ok [0x05, 0x14], 2, b') ∧ b'.now = 40 + 500 + 10 + 100 := by
  refine ⟨rfl, ?_⟩
  obtain ⟨k, b', hplay, hk, hmost, hfailed, hlast, hnow, -⟩ :=
    retry_budget patientClient (.read .input 0x3104 1) slowAtFirst 0 40 quietBench rfl
  have hsecond : slowAtFirst.outcome 500 (.read .input 0x3104 1) 2 = .ok [0x05, 0x14] := rfl
  have hcount : k = 2 := by
    have hthree : k ≤ 3 := hmost
    rcases hlast with hlast | hlast
    · obtain rfl : k = 3 := hlast
      cases hfailed 2 (by decide) (by decide)
    · interval_cases k
      · cases hlast
      · rfl
      · cases hfailed 2 (by decide) (by decide)
  subst hcount
  exact ⟨b', hplay.trans (by rw [← hsecond]; rfl), hnow.trans (by rfl)⟩

end Session

end ChargeController
