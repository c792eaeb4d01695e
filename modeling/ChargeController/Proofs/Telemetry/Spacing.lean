import ChargeController.Proofs.Binary.Rounding
import ChargeController.Proofs.Bus.Attempts
import ChargeController.Proofs.Telemetry.Gathering
import Mathlib.Tactic.Linarith

/-!
# How reads are spaced

Between two reads of a collection the device is left alone for the recovery interval.  When a read
is sent depends on nothing but how long the answers before it have taken: there is no pause before
the first read, and none after the last one or after a failure.

* `Collection.seconds_near` — the seconds that a collection reports are its milliseconds, as
  closely as a double can tell (`Collection.Spans`).
* `Collection.timed` — surroundings in which every answer takes the time that is laid down for it.
* `Collection.Course` — what is sent, and when, until the reads are over.
* **`Collection.read_spacing`** — when each read is sent, and when the collection is over.
-/

namespace ChargeController

namespace Collection

open Dialogue Session

/-! ## Seconds -/

section

open Format Binary

/-- A rounded double with all its significant bits, or none, is off by at most one part in
2 ^ 53. -/
lemma round_near {num den : Nat} (h : 0 < den) (hlarge : num = 0 ∨ den * 2 ^ 52 ≤ num) :
    2 ^ 53 * (den * double.round num den) ≤ (2 ^ 53 + 1) * num ∧
      2 ^ 53 * num ≤ 2 ^ 53 * (den * double.round num den) + num := by
  rcases hlarge with rfl | hlarge
  · rw [round_zero]
    omega
  · exact round_relative (f := double) (by decide) h hlarge

/-- The steps of a whole unit are many more than the significant bits tell apart. -/
lemma many_steps : 1000 * 2 ^ 53 ≤ 2 ^ double.scale :=
  calc 1000 * 2 ^ 53 ≤ 2 ^ 63 := by decide
    _ ≤ 2 ^ double.scale := Nat.pow_le_pow_right (by decide) (by decide)

/-- The thousandth part of some units, reckoned in billionths. -/
lemma round_thousandths {steps : Nat} (hsteps : 1000 * 2 ^ 53 ≤ steps) (b : Nat) :
    let r := double.round (b * 1000000 * steps * steps) (1000000000 * steps)
    2 ^ 53 * (1000 * r) ≤ (2 ^ 53 + 1) * (b * steps) ∧
      2 ^ 53 * (b * steps) ≤ 2 ^ 53 * (1000 * r) + b * steps := by
  intro r
  have hlarge : b * 1000000 * steps * steps = 0 ∨
      1000000000 * steps * 2 ^ 52 ≤ b * 1000000 * steps * steps := by
    rcases Nat.eq_zero_or_pos b with rfl | hpos
    · simp only [Nat.zero_mul, true_or]
    · right
      calc 1000000000 * steps * 2 ^ 52 = 1000000 * steps * (1000 * 2 ^ 52) := by ring
        _ ≤ 1000000 * steps * steps := Nat.mul_le_mul_left _ (by omega)
        _ ≤ b * 1000000 * steps * steps :=
            Nat.mul_le_mul_right _ (Nat.mul_le_mul_right _ (Nat.le_mul_of_pos_left _ hpos))
  obtain ⟨habove, hbelow⟩ := round_near (show 0 < 1000000000 * steps by omega) hlarge
  have hunits : 0 < 1000000 * steps := by omega
  constructor
  · refine Nat.le_of_mul_le_mul_left ?_ hunits
    calc 1000000 * steps * (2 ^ 53 * (1000 * r)) = 2 ^ 53 * (1000000000 * steps * r) := by ring
      _ ≤ (2 ^ 53 + 1) * (b * 1000000 * steps * steps) := habove
      _ = 1000000 * steps * ((2 ^ 53 + 1) * (b * steps)) := by ring
  · refine Nat.le_of_mul_le_mul_left ?_ hunits
    calc 1000000 * steps * (2 ^ 53 * (b * steps))
        = 2 ^ 53 * (b * 1000000 * steps * steps) := by ring
      _ ≤ 2 ^ 53 * (1000000000 * steps * r) + b * 1000000 * steps * steps := hbelow
      _ = 1000000 * steps * (2 ^ 53 * (1000 * r) + b * steps) := by ring

/-- A number of seconds is the thousandth part of the milliseconds, but for one part in 2 ^ 51 at
most. -/
def Spans (milliseconds : Nat) (x : Double) : Prop :=
  ∃ u fits, x = .finite false u fits ∧
    2 ^ 51 * (1000 * u) ≤ (2 ^ 51 + 1) * (milliseconds * 2 ^ double.scale) ∧
    2 ^ 51 * (milliseconds * 2 ^ double.scale) ≤
      2 ^ 51 * (1000 * u) + milliseconds * 2 ^ double.scale

/-- **What is reported of a span is the span**, unless it is longer than a double can tell. -/
theorem seconds_near {milliseconds : Nat} (h : milliseconds / 1000 < 2 ^ 53) :
    Spans milliseconds (seconds milliseconds) := by
  have hsplit := Nat.div_add_mod milliseconds 1000
  have hmod := Nat.mod_lt milliseconds (show 0 < 1000 by decide)
  obtain ⟨ha, hwhole⟩ := ofNat_eq_finite (f := double) (by decide) (by decide) h
  obtain ⟨hb, hpart⟩ := ofNat_eq_finite (f := double) (n := milliseconds % 1000 * 1000000)
    (by decide) (by decide) (show _ < 2 ^ 53 by omega)
  obtain ⟨hd, hdivisor⟩ := ofNat_eq_finite (f := double) (n := 1000000000) (by decide) (by decide)
    (by decide)
  have hsteps := many_steps
  have hlimit : 2 ^ double.scale * 2 ^ 60 ≤ 2 ^ double.limit := by
    rw [← Nat.pow_add]
    exact Nat.pow_le_pow_right (by omega) (by decide)
  rw [Spans, seconds, hwhole, hpart, hdivisor, finite_div_finite _ _ _ _ _ (by omega)]
  generalize milliseconds / 1000 = a at *
  generalize milliseconds % 1000 = b at *
  generalize 2 ^ double.scale = steps at *
  obtain ⟨habove, hbelow⟩ := round_thousandths hsteps b
  have hasteps : a * steps ≤ 2 ^ 53 * steps := Nat.mul_le_mul_right steps (by omega)
  have hbsteps : b * steps ≤ 999 * steps := Nat.mul_le_mul_right steps (by omega)
  have htotal : milliseconds * steps = 1000 * (a * steps) + b * steps := by
    rw [← hsplit]
    ring
  have hwholes (n : Nat) : n * steps = 0 ∨ steps ≤ n * steps := by
    rcases Nat.eq_zero_or_pos n with rfl | hpos
    · exact .inl (Nat.zero_mul steps)
    · exact .inr (Nat.le_mul_of_pos_left steps hpos)
  have hseconds := hwholes a
  have hrest := hwholes b
  rw [nearest_eq_finite (by decide) _ _ (by omega) (by omega), bne_self_eq_false,
    finite_add_finite, htotal]
  generalize double.round (b * 1000000 * steps * steps) (1000000000 * steps) = r at *
  generalize a * steps = A at *
  generalize b * steps = B at *
  -- the whole seconds and the rest are both nothing, or there is enough of them
  have hlarge : A + r = 0 ∨ 1 * 2 ^ 52 ≤ A + r := by omega
  obtain ⟨habove', hbelow'⟩ := round_near Nat.one_pos hlarge
  rw [nearest_eq_finite (by decide) _ _ Nat.one_pos (by omega)]
  exact ⟨_, _, rfl, by omega, by omega⟩

end

/-! ## A transport that takes its time -/

/-- A collection under way: the time, and what was sent until then, with the time of each. -/
structure Timeline where
  now : Nat
  sent : List (Nat × Request)

/-- What becomes of it when a request is sent: its answer takes the time that is laid down for the
next one. -/
def Timeline.send (t : Trials) (s : Timeline) (r : Request) : Timeline where
  now := s.now + t.took (s.sent.length + 1)
  sent := s.sent ++ [(s.now, r)]

/-- Surroundings in which every answer brings what is laid down for it, in the time that is laid
down for it, and time passes only for answers and pauses. -/
def timed (t : Trials) (epoch : Int) (s : Timeline) : (q : Ask) → Reply q × Timeline
  | .send r => (t.brought (s.sent.length + 1) r, s.send t r)
  | .pause milliseconds => ((), { s with now := s.now + milliseconds })
  | .now => (s.now, s)
  | .unixTime => (epoch, s)

/-- When a read is sent that comes after `i` others, if the first of them is sent at a given time
and `n` answers were given before: after their answers, and a pause after each. -/
def sentAt (t : Trials) (recovery start n i : Nat) : Nat :=
  start + ∑ j ∈ Finset.Ioc n (n + i), t.took j + i * recovery

section

variable {t : Trials} {epoch : Int} {recovery : Nat} {s : Timeline} {r : Read} {reads : List Read}
  {step : Step} {steps : List Step} {snapshot : Snapshot} {es : List Line} {s' : Timeline}
  {result : Except CollectionFault Snapshot}

lemma sentAt_zero (start n : Nat) : sentAt t recovery start n 0 = start := by
  simp only [sentAt, Nat.add_zero, Finset.Ioc_self, Finset.sum_empty, Nat.zero_mul]

lemma sentAt_succ (start n i : Nat) :
    sentAt t recovery (start + t.took (n + 1) + recovery) (n + 1) i =
      sentAt t recovery start n (i + 1) := by
  have hsplit : ∑ j ∈ Finset.Ioc n (n + (i + 1)), t.took j =
      t.took (n + 1) + ∑ j ∈ Finset.Ioc (n + 1) (n + 1 + i), t.took j := by
    rw [← Finset.sum_Ioc_consecutive _ (n.le_add_right 1) (show n + 1 ≤ n + (i + 1) by omega),
      Nat.Ioc_succ_singleton, Finset.sum_singleton, Nat.add_right_comm n 1 i, Nat.add_assoc n i 1]
  rw [sentAt, sentAt, hsplit, Nat.succ_mul]
  omega

/-- What the answer to a read after `i` others is refused for, if it is, when `n` answers were given
before the first of them. -/
def refusal (t : Trials) (reads : List Read) (n i : Nat) : Option CollectionFault :=
  reads[i]?.bind fun r => r.verdict (t.brought (n + i + 1) r.register.readRequest)

lemma refusal_succ {n i : Nat} : refusal t (r :: reads) n (i + 1) = refusal t reads (n + 1) i := by
  simp only [refusal, List.getElem?_cons_succ, Nat.add_right_comm n 1 i, Nat.add_assoc n i 1]

/-- What is sent, and when, until reads are over: all reads up to one are answered well, each with a
pause after it, and that one is refused or is the last of them. -/
structure Course (t : Trials) (recovery : Nat) (reads : List Read) (s : Timeline) (before : Nat)
    (result : Except CollectionFault Snapshot) (s' : Timeline) : Prop where
  lt : before < reads.length
  sent : s'.sent = s.sent ++ (reads.take (before + 1)).mapIdx fun i r =>
    (sentAt t recovery s.now s.sent.length i, r.register.readRequest)
  now : s'.now = sentAt t recovery s.now s.sent.length before + t.took (s.sent.length + before + 1)
  well : ∀ i < before, refusal t reads s.sent.length i = none
  fails : ∀ fault, result = .error fault ↔ refusal t reads s.sent.length before = some fault
  complete : refusal t reads s.sent.length before = none → before + 1 = reads.length

namespace Course

lemma refusal_zero {n : Nat} :
    refusal t (r :: reads) n 0 = r.verdict (t.brought (n + 1) r.register.readRequest) :=
  rfl

lemma of_refused {fault : CollectionFault}
    (h : r.verdict (t.brought (s.sent.length + 1) r.register.readRequest) = some fault) :
    Course t recovery (r :: reads) s 0 (.error fault) (s.send t r.register.readRequest) where
  lt := Nat.succ_pos _
  sent := by
    rw [List.take_succ_cons, List.take_zero, List.mapIdx_cons, List.mapIdx_nil, sentAt_zero]
    rfl
  now := by
    rw [sentAt_zero]
    rfl
  well i hi := absurd hi (Nat.not_lt_zero i)
  fails fault' := by
    rw [refusal_zero, h, Except.error.injEq, Option.some.injEq]
  complete hnone := by
    rw [refusal_zero, h] at hnone
    cases hnone

lemma of_last (h : r.verdict (t.brought (s.sent.length + 1) r.register.readRequest) = none) :
    Course t recovery [r] s 0 (.ok snapshot) (s.send t r.register.readRequest) where
  lt := Nat.succ_pos _
  sent := by
    rw [List.take_succ_cons, List.take_zero, List.mapIdx_cons, List.mapIdx_nil, sentAt_zero]
    rfl
  now := by
    rw [sentAt_zero]
    rfl
  well i hi := absurd hi (Nat.not_lt_zero i)
  fails fault' := by
    rw [refusal_zero, h]
    exact iff_of_false nofun nofun
  complete _ := rfl

/-- The reads after one that was answered well take their course later. -/
lemma next {before : Nat}
    (h : r.verdict (t.brought (s.sent.length + 1) r.register.readRequest) = none)
    (rest : Course t recovery reads
      { s.send t r.register.readRequest with
        now := (s.send t r.register.readRequest).now + recovery } before result s') :
    Course t recovery (r :: reads) s (before + 1) result s' := by
  obtain ⟨hlt, hsent, hnow, hwell, hfails, hcomplete⟩ := rest
  have hlength : (s.send t r.register.readRequest).sent.length = s.sent.length + 1 := by
    rw [Timeline.send, List.length_append, List.length_singleton]
  simp only [hlength] at hsent hnow hwell hfails hcomplete
  refine ⟨Nat.succ_lt_succ hlt, ?_, ?_, ?_, ?_, ?_⟩
  · rw [hsent, List.take_succ_cons, List.mapIdx_cons, sentAt_zero]
    simp only [Timeline.send, sentAt_succ, List.append_assoc, List.singleton_append]
  · rw [hnow, ← sentAt_succ]
    simp only [Timeline.send, Nat.add_right_comm _ 1 before, Nat.add_assoc s.sent.length before 1]
  · intro i hi
    cases i with
    | zero => exact h
    | succ i =>
        rw [refusal_succ]
        exact hwell i (Nat.lt_of_succ_lt_succ hi)
  · intro fault
    rw [refusal_succ]
    exact hfails fault
  · intro hnone
    rw [refusal_succ] at hnone
    exact congrArg Nat.succ (hcomplete hnone)

end Course

/-- What is said in these surroundings. -/
abbrev InTime (t : Trials) (epoch : Int) : Surroundings Timeline Ask Reply :=
  fun s q r s' => timed t epoch s q = (r, s')

/-- A read is refused, and that is the end, or something is made of it. -/
lemma ends_step (hstep : r.IsStep step) {k : Snapshot → Procedure Snapshot} {snapshot : Snapshot}
    (h : Ends (readRegister step.register >>= fun data =>
      fill.liftExcept (step.absorb data snapshot) >>= k).run es result)
    (hanswered : Answered (InTime t epoch) s es s') :
    let verdict := r.verdict (t.brought (s.sent.length + 1) r.register.readRequest)
    let later := s.send t r.register.readRequest
    (∃ fault, verdict = some fault ∧ result = .error fault ∧ s' = later) ∨
      verdict = none ∧ ∃ snapshot' rest, Ends (k snapshot').run rest result ∧
        Answered (InTime t epoch) later rest s' := by
  intro verdict later
  rw [hstep.register] at h
  rcases ends_readRegister_bind.mp h with ⟨data, rest, rfl, hrest⟩ | ⟨source, rfl, rfl⟩
  · obtain ⟨s₁, hfirst, hlater⟩ := answered_cons.mp hanswered
    obtain ⟨hdata, rfl⟩ := Prod.mk.inj hfirst
    have hverdict : verdict = r.fault? data := congrArg r.verdict hdata
    rw [hstep.absorb, Read.absorb] at hrest
    rw [hverdict]
    cases hfault : r.fault? data with
    | none =>
        rw [hfault] at hrest
        exact .inr ⟨rfl, _, rest, hrest, hlater⟩
    | some fault =>
        rw [hfault] at hrest
        obtain ⟨rfl, rfl⟩ := ends_done.mp hrest
        exact .inl ⟨fault, rfl, rfl, answered_nil.mp hlater⟩
  · obtain ⟨s₁, hfirst, hlater⟩ := answered_cons.mp hanswered
    obtain ⟨hsource, rfl⟩ := Prod.mk.inj hfirst
    exact .inl ⟨_, congrArg r.verdict hsource, rfl, answered_nil.mp hlater⟩

lemma answered_recover {result : Except CollectionFault Unit}
    (h : Ends (recover recovery).run es result)
    (hanswered : Answered (InTime t epoch) s es s') :
    s' = { s with now := s.now + recovery } := by
  by_cases hzero : recovery = 0
  · rw [show recover recovery = pure () from if_pos hzero] at h
    obtain ⟨rfl, rfl⟩ := ends_run_pure.mp h
    rw [answered_nil.mp hanswered, hzero]
    rfl
  · rw [show recover recovery = ask (.pause recovery) from if_neg hzero] at h
    obtain ⟨_, rfl, rfl⟩ := ends_run_lift.mp h
    obtain ⟨s₁, hfirst, hrest⟩ := answered_cons.mp hanswered
    obtain ⟨-, rfl⟩ := Prod.mk.inj hfirst
    exact answered_nil.mp hrest

/-- Filling a snapshot takes its course. -/
theorem course_fill (hsteps : List.Forall₂ Read.IsStep reads steps) (hsome : reads ≠ [])
    (h : Ends (fill recovery steps snapshot).run es result)
    (hanswered : Answered (InTime t epoch) s es s') :
    ∃ before, Course t recovery reads s before result s' := by
  induction hsteps generalizing s snapshot es with
  | nil => exact absurd rfl hsome
  | @cons r step reads steps hstep hrest ih =>
      -- There is a pause after every read but the last one.
      cases hrest with
      | nil =>
          rw [fill_single] at h
          rcases ends_step hstep h hanswered with
            ⟨fault, hverdict, rfl, rfl⟩ | ⟨hverdict, snapshot', rest, hends, hrest⟩
          · exact ⟨0, .of_refused hverdict⟩
          · obtain ⟨rfl, rfl⟩ := ends_run_pure.mp hends
            rw [answered_nil.mp hrest]
            exact ⟨0, .of_last hverdict⟩
      | cons hnext hrest =>
          rcases ends_step hstep h hanswered with
            ⟨fault, hverdict, rfl, rfl⟩ | ⟨hverdict, snapshot', rest, hends, hrest'⟩
          · exact ⟨0, .of_refused hverdict⟩
          · rcases ends_run_bind.mp hends with
              ⟨fault, hfault, -⟩ | ⟨pause, _, later, rfl, hpause, hlater⟩
            · cases (ends_recover hfault).1
            · obtain ⟨s₁, hpaused, hfilled⟩ := answered_append.mp hrest'
              obtain rfl := answered_recover hpause hpaused
              obtain ⟨before, hcourse⟩ := ih (List.cons_ne_nil _ _) hlater hfilled
              exact ⟨before + 1, hcourse.next hverdict⟩

/-- A collection takes the course of its reads, and reports how long this was. -/
theorem course_collect {strategy : Strategy}
    (h : Ends (collect strategy recovery).run es result)
    (hanswered : Answered (InTime t epoch) s es s') :
    ∃ before filled, Course t recovery strategy.reads s before filled s' ∧
      result = (fun snapshot =>
        { snapshot with collectionTime := seconds (s'.now - s.now) }) <$> filled := by
  have hsome : strategy.reads ≠ [] := by cases strategy <;> exact List.cons_ne_nil _ _
  obtain ⟨started, timestamp, rest, rfl, hbody⟩ := ends_collect.mp h
  obtain ⟨s₁, hstarted, htimed⟩ := answered_cons.mp hanswered
  obtain ⟨rfl, rfl⟩ := Prod.mk.inj hstarted
  obtain ⟨s₂, htimestamp, hrest⟩ := answered_cons.mp htimed
  obtain ⟨rfl, rfl⟩ := Prod.mk.inj htimestamp
  rcases hbody with ⟨fault, hfill, rfl⟩ | ⟨filling, snapshot, ended, rfl, hfill, rfl⟩
  · obtain ⟨before, hcourse⟩ := course_fill strategy.plan_absorbs hsome hfill hrest
    exact ⟨before, _, hcourse, rfl⟩
  · obtain ⟨s₃, hfilled, hlast⟩ := answered_append.mp hrest
    obtain ⟨s₄, hended, hdone⟩ := answered_cons.mp hlast
    obtain ⟨rfl, rfl⟩ := Prod.mk.inj hended
    obtain rfl := answered_nil.mp hdone
    obtain ⟨before, hcourse⟩ := course_fill strategy.plan_absorbs hsome hfill hfilled
    exact ⟨before, _, hcourse, rfl⟩

end

/-- **Reads are spaced.**  In surroundings where the `i`th answer takes the time that is laid down
for it, a collection by either strategy and with any recovery interval

* sends one read after the other, each of them after the answers to those before it and as many
  pauses, and none after the last one of the strategy or one that is refused;
* is over with the answer to the last one that it sends;
* fails with what this answer is refused for, if it is refused, and otherwise has a snapshot, after
  all reads of the strategy, that reports this time in seconds, as closely as a double can. -/
theorem read_spacing (strategy : Strategy) (recovery : Nat) (t : Trials) (epoch : Int)
    (start : Nat) :
    let answers (n : Nat) := ∑ i ∈ Finset.Icc 1 n, t.took i
    ∃ n result s',
      (play (timed t epoch) ⟨start, []⟩ (collect strategy recovery).run).2 = (result, s') ∧
      1 ≤ n ∧ n ≤ strategy.reads.length ∧
      s'.sent = ((strategy.reads.take n).mapIdx fun i r =>
        (start + answers i + i * recovery, r.register.readRequest)) ∧
      s'.now = start + answers n + (n - 1) * recovery ∧
      (∀ i < n - 1, refusal t strategy.reads 0 i = none) ∧
      (∀ fault, result = .error fault ↔ refusal t strategy.reads 0 (n - 1) = some fault) ∧
      ∀ snapshot, result = .ok snapshot → n = strategy.reads.length ∧
        let total := answers n + (n - 1) * recovery
        snapshot.collectionTime = seconds total ∧
          (total / 1000 < 2 ^ 53 → Spans total snapshot.collectionTime) := by
  intro answers
  have hplay := @play_ends Ask Reply _ _ (InTime t epoch) (timed t epoch) (fun _ _ => rfl)
    ⟨start, []⟩ (collect strategy recovery).run
  generalize play (timed t epoch) ⟨start, []⟩ (collect strategy recovery).run = played at hplay ⊢
  obtain ⟨es, result, s'⟩ := played
  obtain ⟨hends, hanswered⟩ : Ends (collect strategy recovery).run es result ∧
    Answered (InTime t epoch) ⟨start, []⟩ es s' := hplay
  obtain ⟨before, filled, hcourse, hresult⟩ := course_collect hends hanswered
  obtain ⟨hlt, hsent, hnow, hwell, hfails, hcomplete⟩ := hcourse
  have hanswers (n : Nat) : ∑ i ∈ Finset.Ioc 0 n, t.took i = answers n := rfl
  have hend : start + answers before + before * recovery + t.took (before + 1) =
      start + answers (before + 1) + before * recovery := by
    rw [← hanswers, ← hanswers, Finset.sum_Ioc_succ_top (Nat.zero_le before)]
    omega
  simp only [List.length_nil, sentAt, Nat.zero_add, hanswers, hend, List.nil_append] at hsent hnow
  simp only [List.length_nil] at hwell hfails hcomplete
  refine ⟨before + 1, _, _, rfl, Nat.succ_pos before, hlt, hsent, hnow, hwell, ?_, ?_⟩
  · intro fault
    rw [Nat.add_sub_cancel, ← hfails, hresult]
    cases filled with
    | ok snapshot => exact iff_of_false nofun nofun
    | error fault => rfl
  · intro snapshot hsnapshot
    rw [hresult] at hsnapshot
    cases filled with
    | error fault => cases hsnapshot
    | ok filled =>
        have htime : snapshot.collectionTime =
            seconds (answers (before + 1) + before * recovery) := by
          obtain rfl := Except.ok.inj hsnapshot
          dsimp only
          rw [hnow, Nat.add_assoc start, Nat.add_sub_cancel_left]
        rw [Nat.add_sub_cancel]
        refine ⟨hcomplete ?_, htime, fun hshort => ?_⟩
        · cases hrefusal : refusal t strategy.reads 0 before with
          | none => rfl
          | some fault => cases (hfails fault).mpr hrefusal
        · rw [htime]
          exact seconds_near hshort

/-- Ten reads that are answered at once are over after nine pauses. -/
example : (play (timed ⟨fun _ => 0, fun _ _ => .ok (List.replicate 32 0)⟩ 0) ⟨0, []⟩
    (collect .sequential 50).run).2.2.now = 450 := by rfl

end Collection

end ChargeController
