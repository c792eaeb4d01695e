import ChargeController.Proofs.Bus.Masking
import ChargeController.Proofs.Session.Deadline
import ChargeController.Proofs.Session.Instant
import ChargeController.Session.Script

/-!
# A task alone on the bench

A bench runs any number of tasks in a time of its own, for a number of rounds.  If nothing else goes
on there, the task of a command is woken whenever it waits, by what it waits for or by its deadline,
and so comes to its end within some number of rounds; and until then it is replied to as a task that
is alone.  What is known of requests and collections that are alone is therefore known of scripts.

* `Orderly` — talks that wait for the link only when they do not hold it.
* **`Bench.comesTo_of_orderly`** — such a talk comes to its end on a bench as it does alone.
* `Step.run_collection` — so a script that collects finds what a collection with a deadline finds.
* `Step.run_request` — and one that makes a request finds what the request finds alone.
* `Step.run_alike` — and finds it on any bench that is alike but for failures that pass.
* **`retries_mask_failures`** — a script of requests through a client finds what it would find on a
  device that never fails.
-/

namespace ChargeController

namespace Session

open Dialogue

variable {α β : Type} {held between after : Bool}

/-! ## Orderly talks -/

/-- Whether a question leaves the link and the script of the device alone. -/
def Act.IsCalm : Act → Prop
  | .leave => False
  | .close => False
  | .device => False
  | .script _ => False
  | _ => True

/-- A talk that closes no client and does not look at the script of the device.  It holds the link
at first, and in the end, as it is said here, and waits for it only when it does not hold it. -/
inductive Orderly {α : Type} (after : Bool) : Bool → Talk α → Prop
  | done {a} : Orderly after after (.done a)
  | act {held a next} (calm : a.IsCalm) (go : ∀ reply, Orderly after held (next reply)) :
      Orderly after held (.ask (.act a) next)
  | leave {held next} (go : Orderly after false (next ())) :
      Orderly after held (.ask (.act .leave) next)
  | sleep {held milliseconds deadline next} (go : ∀ woken, Orderly after held (next woken)) :
      Orderly after held (.ask (.wait (.sleep milliseconds) deadline) next)
  | pause {held milliseconds deadline next} (go : ∀ woken, Orderly after held (next woken)) :
      Orderly after held (.ask (.wait (.pause milliseconds) deadline) next)
  | link {deadline next} (go : Orderly after true (next .inTime)) :
      Orderly after false (.ask (.wait .link deadline) next)

namespace Orderly

lemma bind {t : Talk α} {f : α → Talk β} (ht : Orderly between held t)
    (hf : ∀ a, Orderly after between (f a)) : Orderly after held (t.bind f) := by
  induction ht with
  | done => exact hf _
  | act calm _ ih => exact .act calm ih
  | leave _ ih => exact .leave ih
  | sleep _ ih => exact .sleep ih
  | pause _ ih => exact .pause ih
  | link _ ih => exact .link ih

lemma map {t : Talk α} (f : α → β) (ht : Orderly after held t) : Orderly after held (f <$> t) := by
  rw [← bind_pure_comp]
  exact ht.bind fun _ => .done

/-- A dialogue whose questions are settled without holding the link in between is orderly. -/
lemma settle {Q : Type} {R : Q → Type} {answer : (q : Q) → Talk (R q)}
    (hanswer : ∀ q, Orderly false false (answer q)) (d : Dialogue Q R α) :
    Orderly false false (d.settle answer) := by
  induction d with
  | done a => exact .done
  | ask q next ih => exact (hanswer q).bind ih

lemma rest (milliseconds : Nat) : Orderly held held (rest milliseconds) := by
  refine .pause fun woken => ?_
  cases woken with
  | inTime => exact .done
  | closed => exact .done
  | expired => exact .done

lemma attempt (timeout : Nat) (r : Request) : Orderly held held (attempt timeout r) := by
  refine .act trivial fun latency => (rest _).bind fun rested => ?_
  cases rested with
  | none => exact .done
  | some _ =>
      dsimp only
      split
      · exact .act trivial fun _ => .done
      · exact .done

lemma tryRequest (delay timeout : Nat) (r : Request) (more : Nat) :
    Orderly held held ((Client.tryRequest delay r more).settle (settleClient timeout)) := by
  induction more with
  | zero =>
      rw [Client.tryRequest_eq]
      refine (attempt timeout r).bind fun outcome => ?_
      match outcome with
      | none => exact .done
      | some (.ok data) => exact .done
      | some (.error fault) => exact .done
  | succ more ih =>
      rw [Client.tryRequest_eq]
      refine (attempt timeout r).bind fun outcome => ?_
      match outcome with
      | none => exact .done
      | some (.ok data) => exact .done
      | some (.error fault) =>
          refine (rest delay).bind fun rested => ?_
          cases rested with
          | none => exact .done
          | some _ => exact ih

lemma transport (client : Option LinkSettings) (r : Request) :
    Orderly false false (transport client r) := by
  cases client with
  | none => exact .act trivial fun _ => .sleep fun _ => .act trivial fun _ => .done
  | some s =>
      refine .act trivial fun closed => ?_
      cases closed with
      | true => exact .done
      | false =>
          refine .link ?_
          show Orderly false true (Dialogue.settle (settleClient s.timeout)
            (Dialogue.bind (Client.tryRequest _ r _) _))
          rw [settle_bind]
          exact (tryRequest _ _ r _).bind fun _ => .leave .done

/-- A talk with a deadline does not keep the link when it is cut off. -/
lemma within {t : Talk α} (ht : Orderly false held t) (deadline : Nat) :
    Orderly false held (within deadline t) := by
  induction ht with
  | done => exact .done
  | act calm _ ih => exact .act calm ih
  | leave _ ih => exact .leave ih
  | sleep _ ih =>
      refine .sleep fun woken => ?_
      cases woken with
      | inTime => exact ih .inTime
      | closed => exact ih .closed
      | expired => exact .leave .done
  | pause _ ih =>
      refine .pause fun woken => ?_
      cases woken with
      | inTime => exact ih .inTime
      | closed => exact ih .closed
      | expired => exact .leave .done
  | link _ ih => exact .link ih

lemma collection (client : Option LinkSettings) (p : Collection.Procedure Snapshot) :
    Orderly false false (collection client p) := by
  refine .settle (fun q => ?_) p.run
  cases q with
  | send r => exact .transport client r
  | pause milliseconds => exact .sleep fun _ => .done
  | now => exact .act trivial fun _ => .done
  | unixTime => exact .act trivial fun _ => .done

lemma collecting (client : Option LinkSettings) (deadline : Nat)
    (p : Collection.Procedure Snapshot) : Orderly false false (collecting client deadline p) := by
  refine .settle (fun q => ?_) Monitor.collecting
  cases q with
  | begin => exact .act trivial fun _ => .done
  | gather => exact .act trivial fun started => (Orderly.collection client p).within _
  | note n => exact .act trivial fun _ => .done
  | unixTime => exact .act trivial fun _ => .done
  | finish => exact .act trivial fun _ => .done

end Orderly

/-- **The talk of a request is orderly.** -/
theorem Command.orderly (c : Controller) {x : Command} (hx : x.IsRequest) :
    Orderly false false (x.talk c) := by
  cases x with
  | read t a q => exact (Orderly.transport _ _).map _
  | writeWord a value => exact (Orderly.transport _ _).map _
  | writeBlock a q data =>
      refine Orderly.map _ ?_
      simp only [writeBlockTalk]
      split
      · exact Orderly.transport _ _
      · exact .done
  | _ => exact hx.elim

/-- **The talk of a request is harmless.** -/
theorem Command.harmless (c : Controller) {x : Command} (hx : x.IsRequest) :
    Harmless (x.talk c) := by
  cases x with
  | read t a q => exact (harmless_transport _ _).map _
  | writeWord a value => exact (harmless_transport _ _).map _
  | writeBlock a q data =>
      refine Avoids.map _ ?_
      simp only [writeBlockTalk]
      split
      · exact harmless_transport _ _
      · trivial
  | _ => exact hx.elim

/-! ## Replies to a task that is alone -/

section

variable {D : Type} (line : Connection D) (n : Nat) (s : Scene D)

/-- A talk that is harmless has no deadlines to keep. -/
lemma play_timely {t : Talk α} (ht : Harmless t) (queue : Nat) :
    let played := (play (alone line n queue) (s.wire, s.bench) t).2
    let ended := (play (timely line n fun _ => queue) s t).2
    ended = (played.1, ⟨played.2.1, played.2.2, ended.2.reached⟩) := by
  induction t generalizing s with
  | done a => rfl
  | ask q next ih =>
      cases q with
      | act a =>
          cases a with
          | answer r => exact ih _ _ (ht.2 _)
          | _ => exact ih _ _ (ht.2 _)
      | wait w deadline =>
          obtain rfl : deadline = none := not_not.mp ht.1
          exact ih _ _ (ht.2 _)

/-- A wait that goes no other way without a deadline goes no other way with one. -/
lemma timely_congr {w w' : Wait} (deadline : Option Nat)
    (h : s.replied line n (fun _ => 0) (.wait w none) =
      s.replied line n (fun _ => 0) (.wait w' none)) :
    timely line n (fun _ => 0) s (.wait w deadline) =
      timely line n (fun _ => 0) s (.wait w' deadline) := by
  cases deadline with
  | none => exact h
  | some deadline =>
      simp only [timely, h]
      rfl

/-- A wait that takes no time is over before its deadline. -/
lemma timely_atOnce {w : Wait} {woken : Woken} {s' : Scene D}
    (h : s.replied line n (fun _ => 0) (.wait w none) = (woken, s'))
    (hnow : s'.bench.now = s.bench.now) (deadline : Option Nat) :
    timely line n (fun _ => 0) s (.wait w deadline) = (woken, s') := by
  cases deadline with
  | none => exact h
  | some deadline =>
      simp only [timely, h]
      exact if_pos (hnow.trans_le (Nat.le_max_left ..))

/-- The link of a bench is free for a task that is alone. -/
lemma timely_link (deadline : Option Nat) :
    timely line n (fun _ => 0) s (.wait .link deadline) =
      (.inTime, { s with bench := { s.bench with link := s.bench.link.acquire n } }) :=
  timely_atOnce line n s rfl rfl deadline

lemma timely_closed (hclosed : s.bench.link.closed = true) (milliseconds : Nat)
    (deadline : Option Nat) :
    timely line n (fun _ => 0) s (.wait (.pause milliseconds) deadline) = (.closed, s) := by
  refine timely_atOnce line n s ?_ rfl deadline
  rw [Scene.replied, alone_pause_closed hclosed]
  rfl

lemma timely_open (hopen : s.bench.link.closed = false) (milliseconds : Nat)
    (deadline : Option Nat) :
    timely line n (fun _ => 0) s (.wait (.pause milliseconds) deadline) =
      timely line n (fun _ => 0) s (.wait (.sleep milliseconds) deadline) := by
  refine timely_congr line n s deadline ?_
  rw [Scene.replied, alone_pause hopen]
  rfl

/-- A rest of no time is over at once. -/
lemma timely_zero (deadline : Option Nat) :
    timely line n (fun _ => 0) s (.wait (.sleep 0) deadline) = (.inTime, s) :=
  timely_atOnce line n s rfl rfl deadline

/-- A rest that begins after its deadline ends at once. -/
lemma timely_past {milliseconds deadline : Nat} (hpos : 0 < milliseconds)
    (hpast : deadline ≤ s.bench.now) :
    timely line n (fun _ => 0) s (.wait (.sleep milliseconds) (some deadline)) = (.expired, s) := by
  have hlate : ¬ s.bench.now + milliseconds ≤ max s.bench.now deadline := by omega
  refine (if_neg hlate).trans ?_
  rw [Nat.max_eq_left hpast]
  rfl

/-- A rest ends when its time is over or its deadline has come, whichever is first. -/
lemma timely_rest {milliseconds : Nat} {deadline : Option Nat}
    (hpast : s.bench.isPast deadline = false) :
    let time := earlier (s.bench.now + milliseconds) deadline
    timely line n (fun _ => 0) s (.wait (.sleep milliseconds) deadline) =
      (if s.bench.now + milliseconds ≤ time then .inTime else .expired,
        { s with bench := { s.bench with now := time } }) := by
  intro time
  cases deadline with
  | none => exact Prod.ext (if_pos (Nat.le_refl _)).symm rfl
  | some deadline =>
      have hearly : s.bench.now ≤ deadline := by
        simp only [Bench.isPast, Option.any_some, decide_eq_false_iff_not] at hpast
        omega
      let waited := s.replied line n (fun _ => 0) (.wait (.sleep milliseconds) none)
      have hends : waited.2.bench.now = s.bench.now + milliseconds := rfl
      rcases Nat.lt_or_ge deadline (s.bench.now + milliseconds) with hlate | hover
      · have htime : time = deadline := Nat.min_eq_right hlate.le
        rw [timely_expired hearly (hlate.trans_eq hends.symm), htime]
        exact Prod.ext (if_neg (Nat.not_le.mpr hlate)).symm rfl
      · have htime : time = s.bench.now + milliseconds := Nat.min_eq_left hover
        rw [timely_inTime hearly (hends.trans_le hover), htime]
        exact Prod.ext (if_pos (Nat.le_refl _)).symm rfl

end

/-! ## A bench with one task -/

namespace Bench

/-- A bench on which a single task, whose outcome will be asked for, has come so far. -/
def lone (n : Nat) (progress : Progress) (s : Scene Device) : Bench :=
  { s.bench with
    device := s.wire, tasks := [(n, ⟨progress, true⟩)], ready := [], poller := none }

/-- The same bench when that task is forgotten. -/
def cleared (s : Scene Device) : Bench :=
  { s.bench with device := s.wire, tasks := [], ready := [], poller := none }

/-- Who holds the link of a bench with one task. -/
def lineOf (n : Nat) (held : Bool) : List Nat :=
  if held then [n] else []

variable {n rounds : Nat} {progress progress' : Progress} {s : Scene Device} {outcome : Outcome}

@[simp] lemma task?_lone : (lone n progress s).task? n = some ⟨progress, true⟩ := by
  simp [lone, task?]

@[simp] lemma setProgress_lone :
    (lone n progress s).setProgress n progress' = lone n progress' s := by
  simp [lone, setProgress]

@[simp] lemma forgetTask_lone : (lone n progress s).forgetTask n = cleared s := by
  simp [lone, cleared, forgetTask]

@[simp] lemma outcome?_ended : (lone n (.ended outcome) s).outcome? n = some outcome := by
  simp [outcome?]

lemma finish_lone : (lone n progress s).finish n outcome = lone n (.ended outcome) s := by
  simp [finish]

lemma leave_line {held : Bool} (b : Bench) (hline : b.link.line = lineOf n held) :
    b.leave n = { b with link := b.link.leave n } ∧ (b.link.leave n).line = [] := by
  have hnobody : (b.link.leave n).line = [] := by
    simp only [Link.leave, hline]
    cases held with
    | true => simp [lineOf]
    | false => rfl
  have hholder : (b.link.leave n).holder = none := by
    rw [Link.holder, hnobody]
    rfl
  refine ⟨?_, hnobody⟩
  simp only [leave, hholder]

lemma acquire_line {l : Link} (hline : l.line = lineOf n false) :
    (l.acquire n).line = lineOf n true := by
  rw [Link.acquire, hline]
  rfl

/-- A task that has ended stays as it is, however long the run goes on. -/
lemma runUntil_ended :
    runUntil (fun b => (b.outcome? n).isSome) rounds (lone n (.ended outcome) s) =
      lone n (.ended outcome) s := by
  cases rounds with
  | zero => rfl
  | succ rounds =>
      have hturn : (lone n (.ended outcome) s).turn? = none := rfl
      rw [runUntil]
      simp only [hturn]
      exact if_pos (by simp)

/-- The task goes on when it can. -/
lemma runUntil_ready {goal : Bench → Bool} {talk : Talk Outcome} :
    runUntil goal (rounds + 1) { lone n (.ready talk) s with ready := [n] } =
      runUntil goal rounds (resume n talk (lone n (.ready talk) s)) := by
  have htask : ({ lone n (.ready talk) s with ready := [] } : Bench).task? n =
      some ⟨.ready talk, true⟩ := task?_lone
  have hgoes : goOn { lone n (.ready talk) s with ready := [n] } n [] =
      resume n talk (lone n (.ready talk) s) := by
    simp only [goOn, htask]
    rfl
  rw [← hgoes]
  rfl

section

variable {milliseconds : Nat} {deadline : Option Nat} {ends : Bool} {next : Woken → Talk Outcome}

/-- A task that waits for the clock is woken when its time is over, or at its deadline. -/
lemma jump?_lone :
    let time := earlier (s.bench.now + milliseconds) deadline
    let woken := if s.bench.now + milliseconds ≤ time then Woken.inTime else Woken.expired
    (lone n (.waiting ⟨some (s.bench.now + milliseconds), ends, deadline, next⟩) s).jump? =
      some { lone n (.ready (next woken)) { s with bench := { s.bench with now := time } } with
        ready := [n] } := by
  intro time woken
  let pending : Pending := ⟨some (s.bench.now + milliseconds), ends, deadline, next⟩
  let late := lone n (.waiting pending) { s with bench := { s.bench with now := time } }
  have htime : (lone n (.waiting pending) s).nextTime? = some time := rfl
  have hwake : late.wake n woken =
      { lone n (.ready (next woken)) { s with bench := { s.bench with now := time } } with
        ready := [n] } := by
    simp only [wake, late, task?_lone, setProgress_lone]
    rfl
  have hdue : late.wakeIfDue n = late.wake n woken := by
    simp only [wakeIfDue, late, task?_lone]
    by_cases hover : s.bench.now + milliseconds ≤ time
    · rw [if_pos (show pending.wake.any (· ≤ late.now) = true from decide_eq_true hover)]
      rw [show woken = .inTime from if_pos hover]
    · have hcut : deadline.any (· ≤ time) = true := by
        cases deadline with
        | none => exact absurd (Nat.le_refl _) hover
        | some deadline => exact decide_eq_true (by simp only [time, earlier] at hover ⊢; omega)
      have hwaits : ¬ pending.wake.any (· ≤ late.now) = true :=
        fun hdue => hover (of_decide_eq_true hdue)
      rw [if_neg hwaits]
      rw [if_pos (show late.isPast pending.deadline = true from hcut)]
      rw [show woken = .expired from if_neg hover]
  rw [jump?, htime]
  show some (late.wakeIfDue n) = _
  rw [hdue, hwake]

lemma runUntil_waiting :
    let time := earlier (s.bench.now + milliseconds) deadline
    let woken := if s.bench.now + milliseconds ≤ time then Woken.inTime else Woken.expired
    runUntil (fun b => (b.outcome? n).isSome) (rounds + 2)
        (lone n (.waiting ⟨some (s.bench.now + milliseconds), ends, deadline, next⟩) s) =
      runUntil (fun b => (b.outcome? n).isSome) rounds
        (resume n (next woken)
          (lone n (.ready (next woken)) { s with bench := { s.bench with now := time } })) := by
  intro time woken
  let waiting := lone n (.waiting ⟨some (s.bench.now + milliseconds), ends, deadline, next⟩) s
  have hrest : waiting.AtRest := ⟨rfl, rfl⟩
  have hgoal : (waiting.outcome? n).isSome = false := by simp [waiting, outcome?]
  exact (runUntil_jump hrest hgoal jump?_lone).trans runUntil_ready

end

/-- From some point on, the one task of a bench goes on to this end. -/
def ComesTo (n : Nat) (t : Talk Outcome) (s : Scene Device) (ended : Outcome × Scene Device) :
    Prop :=
  ∀ progress, ∃ rounds, ∀ more,
    runUntil (fun b => (b.outcome? n).isSome) (rounds + more) (resume n t (lone n progress s)) =
      lone n (.ended ended.1) ended.2

lemma comesTo_done : ComesTo n (.done outcome) s (outcome, s) := by
  refine fun progress => ⟨0, fun more => ?_⟩
  rw [resume, finish_lone]
  exact runUntil_ended

section

variable {b b' : Bench} {w : Wait} {deadline : Option Nat}
  {next : Reply (.wait w deadline) → Talk Outcome}

/-- A task goes on from a wait that is over already. -/
lemma resume_over {woken : Woken} (h : b.beginWait n deadline w = (.inl woken, b')) :
    resume n (.ask (.wait w deadline) next) b = resume n (next woken) b' := by
  rw [resume.eq_def]
  dsimp only
  rw [h]

lemma resume_begun {wake : Option Nat} (h : b.beginWait n deadline w = (.inr wake, b')) :
    resume n (.ask (.wait w deadline) next) b =
      b'.setProgress n (.waiting ⟨wake, w.endsOnClose, deadline, next⟩) := by
  rw [resume.eq_def]
  dsimp only
  rw [h]

end

/-- A question about neither the link nor the script has the same answer on the bench as alone. -/
lemma reply_lone {a : Act} (calm : a.IsCalm) :
    let replied := timely .scripted n (fun _ => 0) s (.act a)
    (lone n progress s).reply n a = (replied.1, lone n progress replied.2) := by
  cases a with
  | leave => exact calm.elim
  | close => exact calm.elim
  | device => exact calm.elim
  | script change => exact calm.elim
  | begin =>
      have hmonitor : (lone n progress s).monitor = s.bench.monitor := rfl
      simp only [timely, Scene.replied, alone, reply, hmonitor]
      cases s.bench.monitor.begin? n with
      | none => rfl
      | some monitor => rfl
  | _ => rfl

/-- A wait for the clock takes two rounds, or none if it is over at once. -/
lemma comesTo_of_rest {w : Wait} {milliseconds : Nat} {deadline : Option Nat}
    {next : Reply (.wait w deadline) → Talk Outcome} {ended : Outcome × Scene Device}
    (hw : ∀ progress, (lone n progress s).beginWait n deadline w =
      ((lone n progress s).beginRest milliseconds deadline, lone n progress s))
    (hnext : let waited := timely .scripted n (fun _ => 0) s (.wait (.sleep milliseconds) deadline)
      ComesTo n (next waited.1) waited.2 ended) :
    ComesTo n (.ask (.wait w deadline) next) s ended := by
  intro progress
  rcases Nat.eq_zero_or_pos milliseconds with rfl | hpos
  · rw [timely_zero] at hnext
    obtain ⟨rounds, hend⟩ := hnext progress
    refine ⟨rounds, fun more => ?_⟩
    rw [resume_over (hw progress)]
    exact hend more
  cases hpast : s.bench.isPast deadline with
  | true =>
      obtain ⟨time, rfl, htime⟩ : ∃ time, deadline = some time ∧ time ≤ s.bench.now := by
        simpa [isPast, Option.any_eq_true] using hpast
      rw [timely_past _ _ _ hpos htime] at hnext
      obtain ⟨rounds, hend⟩ := hnext progress
      refine ⟨rounds, fun more => ?_⟩
      have hbegin : (lone n progress s).beginWait n (some time) w =
          (.inl .expired, lone n progress s) := by
        have hpast' : (lone n progress s).isPast (some time) = true := hpast
        rw [hw, beginRest, if_neg (Nat.ne_of_gt hpos), if_pos hpast']
      rw [resume_over hbegin]
      exact hend more
  | false =>
      rw [timely_rest _ _ _ hpast] at hnext
      obtain ⟨rounds, hend⟩ := hnext (.ready (next _))
      refine ⟨rounds + 2, fun more => ?_⟩
      have hbegin : (lone n progress s).beginWait n deadline w =
          (.inr (some (s.bench.now + milliseconds)), lone n progress s) := by
        have hpast' : ¬ (lone n progress s).isPast deadline = true := ne_true_of_eq_false hpast
        rw [hw, beginRest, if_neg (Nat.ne_of_gt hpos), if_neg hpast']
        rfl
      rw [resume_begun hbegin, setProgress_lone, Nat.add_right_comm]
      exact runUntil_waiting.trans (hend more)

/-- A bench is set up so and has given so many tasks a number, and its link is held by a task or by
nobody. -/
structure Stands (n : Nat) (held : Bool) (controller : Controller) (tasks : Nat) (b : Bench) :
    Prop where
  controller : b.controller = controller
  nextTask : b.nextTask = tasks
  line : b.link.line = lineOf n held

section

variable {c : Controller} {k : Nat}

lemma Stands.act (h : s.bench.Stands n held c k) {a : Act} (calm : a.IsCalm) :
    (timely .scripted n (fun _ => 0) s (.act a)).2.bench.Stands n held c k := by
  cases a with
  | leave => exact calm.elim
  | close => exact calm.elim
  | device => exact calm.elim
  | script change => exact calm.elim
  | begin =>
      simp only [timely, Scene.replied, alone, reply]
      cases s.bench.monitor.begin? n with
      | none => exact h
      | some monitor => exact ⟨h.controller, h.nextTask, h.line⟩
  | _ => exact ⟨h.controller, h.nextTask, h.line⟩

lemma Stands.leave (h : s.bench.Stands n held c k) :
    (s.bench.leave n).Stands n false c k := by
  obtain ⟨hleft, hnobody⟩ := leave_line s.bench h.line
  rw [hleft]
  exact ⟨h.controller, h.nextTask, hnobody⟩

lemma Stands.rest (h : s.bench.Stands n held c k) (milliseconds : Nat) (deadline : Option Nat) :
    (timely .scripted n (fun _ => 0) s (.wait (.sleep milliseconds) deadline)).2.bench.Stands
      n held c k := by
  cases deadline with
  | none => exact ⟨h.controller, h.nextTask, h.line⟩
  | some deadline =>
      let waited := s.replied .scripted n (fun _ => 0) (.wait (.sleep milliseconds) none)
      by_cases hover : waited.2.bench.now ≤ max s.bench.now deadline
      · rw [show timely _ _ _ s (.wait _ (some deadline)) = waited from if_pos hover]
        exact ⟨h.controller, h.nextTask, h.line⟩
      · rw [show timely _ _ _ s (.wait _ (some deadline)) = (.expired, _) from if_neg hover]
        exact ⟨h.controller, h.nextTask, h.line⟩

/-- An orderly talk leaves the set-up of a bench alone, and the link as it says. -/
lemma stands_of_orderly {α : Type} {t : Talk α} (ht : Orderly after held t)
    (h : s.bench.Stands n held c k) :
    (play (timely .scripted n fun _ => 0) s t).2.2.bench.Stands n after c k := by
  induction ht generalizing s with
  | done => exact h
  | act calm _ ih => exact ih _ (h.act calm)
  | leave _ ih => exact ih h.leave
  | @sleep held milliseconds deadline next _ ih => exact ih _ (h.rest milliseconds deadline)
  | @pause held milliseconds deadline next _ ih =>
      rw [play_ask]
      cases hclosed : s.bench.link.closed with
      | true =>
          rw [timely_closed _ _ _ hclosed]
          exact ih .closed h
      | false =>
          rw [timely_open _ _ _ hclosed]
          exact ih _ (h.rest milliseconds deadline)
  | @link deadline next _ ih =>
      rw [play_ask, timely_link]
      exact ih ⟨h.controller, h.nextTask, acquire_line h.line⟩

/-- **An orderly talk comes to its end on a bench with one task as it does alone.** -/
theorem comesTo_of_orderly {t : Talk Outcome} (ht : Orderly after held t)
    (h : s.bench.Stands n held c k) :
    ComesTo n t s (play (timely .scripted n fun _ => 0) s t).2 := by
  induction ht generalizing s with
  | done => exact comesTo_done
  | @act held a next calm _ ih =>
      intro progress
      rw [resume.eq_def]
      dsimp only
      rw [reply_lone calm]
      exact ih _ (h.act calm) progress
  | @leave held next _ ih =>
      intro progress
      obtain ⟨hleft, -⟩ := leave_line s.bench h.line
      obtain ⟨hleft', -⟩ := leave_line (lone n progress s) h.line
      have hlone : (lone n progress s).leave n =
          lone n progress { s with bench := s.bench.leave n } := by
        rw [hleft', hleft]
        rfl
      show ∃ rounds, ∀ more, runUntil _ (rounds + more)
        (resume n (next ()) ((lone n progress s).leave n)) = _
      rw [hlone]
      exact ih (s := { s with bench := s.bench.leave n }) h.leave progress
  | @sleep held milliseconds deadline next _ ih =>
      exact comesTo_of_rest (fun _ => rfl) (ih _ (h.rest milliseconds deadline))
  | @pause held milliseconds deadline next _ ih =>
      cases hclosed : s.bench.link.closed with
      | true =>
          intro progress
          have hbegin : (lone n progress s).beginWait n deadline (.pause milliseconds) =
              (.inl .closed, lone n progress s) := if_pos hclosed
          rw [play_ask, timely_closed _ _ _ hclosed, resume_over hbegin]
          exact ih .closed h progress
      | false =>
          rw [play_ask, timely_open _ _ _ hclosed]
          refine comesTo_of_rest (fun _ => if_neg (ne_true_of_eq_false hclosed)) ?_
          exact ih _ (h.rest milliseconds deadline)
  | @link deadline next _ ih =>
      have hfree : s.bench.link.holder = none := by
        rw [Link.holder, h.line]
        rfl
      intro progress
      have hbegin : (lone n progress s).beginWait n deadline .link = (.inl .inTime,
          lone n progress { s with bench := { s.bench with link := s.bench.link.acquire n } }) := by
        have hnobody : (lone n progress s).link.holder.isNone = true := by
          rw [show (lone n progress s).link = s.bench.link from rfl, hfree]
          rfl
        exact if_pos hnobody
      rw [play_ask, timely_link, resume_over hbegin]
      exact ih (s := { s with bench := { s.bench with link := s.bench.link.acquire n } })
        ⟨h.controller, h.nextTask, acquire_line h.line⟩ progress

end

end Bench

/-- A bench on which nothing goes on. -/
structure Bench.Idle (b : Bench) : Prop where
  tasks : b.tasks = []
  ready : b.ready = []
  poller : b.poller = none
  line : b.link.line = []

/-- What a task has to do with that is begun on a bench. -/
def Stage.scene (stage : Stage) : Scene Device :=
  ⟨stage.bench.device, { stage.bench with nextTask := stage.bench.nextTask + 1 }, []⟩

/-- **A script finds on an idle bench what an orderly talk finds alone**, and leaves the device, the
clock, the link and the monitor as it does. -/
theorem Step.run_orderly {stage : Stage} (idle : stage.bench.Idle) {x : Command}
    (hx : Orderly false false (x.talk stage.bench.controller)) :
    let ended := (play (timely .scripted stage.bench.nextTask fun _ => 0) stage.scene
      (x.talk stage.bench.controller)).2
    ∃ rounds, ∀ more, (Step.command x).run (rounds + more) stage =
      (.outcome ended.1, stage.withBench (Bench.cleared ended.2)) := by
  intro ended
  let n := stage.bench.nextTask
  let talk := x.talk stage.bench.controller
  have hspawned : stage.bench.spawn x true =
      { Bench.lone n (.ready talk) stage.scene with ready := [n] } := by
    rw [Bench.spawn, idle.tasks, idle.ready]
    simp only [Bench.lone, Stage.scene, idle.poller]
    rfl
  obtain ⟨rounds, hend⟩ := Bench.comesTo_of_orderly hx (s := stage.scene) (n := n)
    ⟨rfl, rfl, idle.line⟩ (.ready talk)
  refine ⟨rounds + 1, fun more => ?_⟩
  have hrun : (stage.bench.spawn x true).await (rounds + 1 + more) n =
      Bench.lone n (.ended ended.1) ended.2 := by
    rw [Bench.await, hspawned, Nat.add_right_comm]
    exact Bench.runUntil_ready.trans (hend more)
  show (Finding.ofOutcome (Bench.outcome? _ n), stage.withBench (Bench.forgetTask _ n)) = _
  rw [hrun, Bench.outcome?_ended, Bench.forgetTask_lone]
  rfl

/-- **A script that collects on an idle bench finds what a collection with its deadline finds
alone.** -/
theorem Step.run_collection {stage : Stage} (idle : stage.bench.Idle) :
    let c := stage.bench.controller
    let ended := (play (timely .scripted stage.bench.nextTask fun _ => 0) stage.scene
      (collecting c.client c.deadline (Collection.collect c.strategy c.recovery))).2
    ∃ rounds, ∀ more, (Step.command .collect).run (rounds + more) stage =
      (.outcome (.collected ended.1), stage.withBench (Bench.cleared ended.2)) := by
  intro c ended
  have horderly : Orderly false false (Command.talk c .collect) := (Orderly.collecting ..).map _
  obtain ⟨rounds, hrun⟩ := Step.run_orderly idle horderly
  refine ⟨rounds, fun more => (hrun more).trans ?_⟩
  rw [Command.talk, play_map]

/-- **A script that makes a request on an idle bench finds what the request finds alone**, and
leaves the device, the clock and the link as it does. -/
theorem Step.run_request {stage : Stage} (idle : stage.bench.Idle) {x : Command}
    (hx : x.IsRequest) :
    let n := stage.bench.nextTask
    let played := (play (alone .scripted n 0) (stage.bench.device, stage.scene.bench)
      (x.talk stage.bench.controller)).2
    ∃ rounds, ∀ more, (Step.command x).run (rounds + more) stage =
      (.outcome played.1, stage.withBench (Bench.cleared ⟨played.2.1, played.2.2, []⟩)) := by
  intro n played
  obtain ⟨rounds, hrun⟩ := Step.run_orderly idle (x.orderly _ hx)
  refine ⟨rounds, fun more => ?_⟩
  rw [hrun more, play_timely .scripted n stage.scene (x.harmless _ hx) 0]
  rfl

/-- A request leaves the set-up of the bench alone, and the link is free again. -/
lemma Command.stands {c : Controller} {x : Command} (hx : x.IsRequest) {stage : Stage}
    (idle : stage.bench.Idle) :
    let n := stage.bench.nextTask
    (play (alone .scripted n 0) (stage.bench.device, stage.scene.bench) (x.talk c)).2.2.2.Stands
      n false stage.bench.controller (n + 1) := by
  intro n
  have hstands := Bench.stands_of_orderly (x.orderly c hx) (s := stage.scene) (n := n)
    ⟨rfl, rfl, idle.line⟩
  rw [play_timely .scripted n stage.scene (x.harmless c hx) 0] at hstands
  exact hstands

/-! ## Failures that pass -/

/-- Two stages on which nothing goes on, with benches that are alike but for failures that pass. -/
structure AlikeStages (s : LinkSettings) (x y : Stage) : Prop where
  idle : x.bench.Idle
  idle' : y.bench.Idle
  client : x.bench.controller.client = some s
  controller : y.bench.controller = x.bench.controller
  nextTask : y.bench.nextTask = x.bench.nextTask
  alike : Alike s (x.bench.device, x.bench) (y.bench.device, y.bench)

/-- The stage after some steps of a script. -/
def Script.stage (rounds : Nat) (x : Stage) (steps : List Step) : Stage :=
  steps.foldl (fun x step => (step.run rounds x).2) x

/-- **A request has the same outcome on stages that are alike**, and leaves them alike. -/
theorem Step.run_alike {s : LinkSettings} {x y : Stage} (h : AlikeStages s x y) {c : Command}
    (hc : c.IsRequest) :
    ∃ outcome x' y', AlikeStages s x' y' ∧ ∃ rounds, ∀ more,
      (Step.command c).run (rounds + more) x = (.outcome outcome, x') ∧
        (Step.command c).run (rounds + more) y = (.outcome outcome, y') := by
  let n := x.bench.nextTask
  let talk := c.talk x.bench.controller
  let played := (play (alone .scripted n 0) (x.bench.device, x.scene.bench) talk).2
  let played' := (play (alone .scripted n 0) (y.bench.device, y.scene.bench) talk).2
  obtain ⟨rounds, hrun⟩ := Step.run_request h.idle hc
  obtain ⟨rounds', hrun'⟩ := Step.run_request h.idle' hc
  rw [h.nextTask, h.controller] at hrun'
  have halike : Alike s (x.bench.device, x.scene.bench) (y.bench.device, y.scene.bench) :=
    h.alike.congr rfl rfl
  obtain ⟨hsame, hafter⟩ := c.masks h.client hc n 0 _ _ halike
  have hstands : played.2.2.Stands n false x.bench.controller (n + 1) :=
    Command.stands hc h.idle
  have hstands' : played'.2.2.Stands n false x.bench.controller (n + 1) := by
    have hstands' := Command.stands (c := x.bench.controller) hc h.idle'
    rwa [h.nextTask, h.controller] at hstands'
  let z := x.withBench (Bench.cleared ⟨played.2.1, played.2.2, []⟩)
  let z' := y.withBench (Bench.cleared ⟨played'.2.1, played'.2.2, []⟩)
  refine ⟨played.1, z, z', ?_, rounds + rounds', fun more => ⟨?_, ?_⟩⟩
  · exact ⟨⟨rfl, rfl, rfl, hstands.line⟩, ⟨rfl, rfl, rfl, hstands'.line⟩,
      (congrArg Controller.client hstands.controller).trans h.client,
      hstands'.controller.trans hstands.controller.symm,
      hstands'.nextTask.trans hstands.nextTask.symm, hafter.congr rfl rfl⟩
  · rw [Nat.add_assoc]
    exact hrun (rounds' + more)
  · rw [Nat.add_comm rounds, Nat.add_assoc, hrun' (rounds + more), hsame]

/-- What the steps of a script find. -/
def Script.findings (rounds : Nat) (x : Stage) (steps : List Step) : List Finding :=
  (Script.run rounds x steps).map (·.finding)

/-- Requests one after another have the same outcomes on stages that are alike, and leave them
alike. -/
lemma Script.run_alike {s : LinkSettings} {x y : Stage} (h : AlikeStages s x y)
    {calls : List Command} (hcalls : ∀ c ∈ calls, c.IsRequest) :
    ∃ (outcomes : List Outcome) (x' y' : Stage), AlikeStages s x' y' ∧ ∃ rounds, ∀ more,
      let steps := calls.map Step.command
      findings (rounds + more) x steps = outcomes.map Finding.outcome ∧
        findings (rounds + more) y steps = outcomes.map Finding.outcome ∧
        stage (rounds + more) x steps = x' ∧ stage (rounds + more) y steps = y' := by
  induction calls generalizing x y with
  | nil => exact ⟨[], x, y, h, 0, fun _ => ⟨rfl, rfl, rfl, rfl⟩⟩
  | cons c calls ih =>
      obtain ⟨outcome, x₁, y₁, h₁, rounds, hfirst⟩ :=
        Step.run_alike h (hcalls c List.mem_cons_self)
      obtain ⟨outcomes, x₂, y₂, h₂, rounds', hrest⟩ :=
        ih h₁ fun c' hc' => hcalls c' (List.mem_cons_of_mem _ hc')
      refine ⟨outcome :: outcomes, x₂, y₂, h₂, rounds + rounds', fun more => ?_⟩
      obtain ⟨hx, hy⟩ := hfirst (rounds' + more)
      obtain ⟨hfound, hfound', hx', hy'⟩ := hrest (rounds + more)
      rw [← Nat.add_assoc] at hx hy
      rw [Nat.add_left_comm, ← Nat.add_assoc] at hfound hfound' hx' hy'
      simp only [findings, stage, List.map_cons, Script.run, List.foldl_cons, hx, hy]
      exact ⟨congrArg (_ :: ·) hfound, congrArg (_ :: ·) hfound', hx', hy'⟩

/-- **Retries mask failures that pass.**  On a bench where nothing else goes on, a script makes
requests of any kind through a client, one after another, to a device that is fast enough and fails
at each address less often than the client tries.  They end, within enough rounds, as they would on
a device that was told nothing, and the registers and switches are the same in the end. -/
theorem retries_mask_failures {x : Stage} (idle : x.bench.Idle) {s : LinkSettings}
    (hclient : x.bench.controller.client = some s) (hopen : x.bench.link.closed = false)
    (hfast : x.bench.device.delay ≤ s.timeout)
    (hpassing : x.bench.device.Passing (Retries.ofSettings s).attempts) {calls : List Command}
    (hcalls : ∀ c ∈ calls, c.IsRequest) :
    let steps := calls.map Step.command
    let told := { x.bench.device with failures := fun _ => none }
    let y := x.withBench { x.bench with device := told }
    ∃ (outcomes : List Outcome) (rounds : Nat), ∀ more,
      Script.findings (rounds + more) x steps = outcomes.map Finding.outcome ∧
      Script.findings (rounds + more) y steps = outcomes.map Finding.outcome ∧
      let after := (Script.stage (rounds + more) x steps).bench.device
      let after' := (Script.stage (rounds + more) y steps).bench.device
      after.input = after'.input ∧ after.holding = after'.holding ∧ after.coils = after'.coils ∧
        after.discrete = after'.discrete := by
  intro steps told y
  have halike : AlikeStages s x y :=
    ⟨idle, ⟨idle.tasks, idle.ready, idle.poller, idle.line⟩, hclient, rfl, rfl,
      rfl, hfast, hpassing, fun _ _ hrule => (nomatch hrule), hopen, hopen⟩
  obtain ⟨outcomes, x', y', hafter, rounds, hrun⟩ := Script.run_alike halike hcalls
  refine ⟨outcomes, rounds, fun more => ?_⟩
  obtain ⟨hfound, hfound', hx, hy⟩ := hrun more
  refine ⟨hfound, hfound', ?_⟩
  rw [hx, hy]
  exact Device.banks_of_unruled hafter.alike.unruled

/-- A device that fails once for the battery voltage and twice for the capacity. -/
def shakyDevice : Device :=
  (({ Device.empty with delay := 20 }.setInput ⟨0x3104, [1300], by decide⟩).setHolding
    ⟨0x9001, [200], by decide⟩ |>.failNext 0x3104 1).failNext 0x9001 2

/-- Writes the capacity and reads it, and the voltage; one block is refused before it is sent, and
one read by the device itself. -/
def registerCalls : List Command :=
  [.writeWord 0x9001 150, .read .input 0x3104 1, .writeBlock 0x9001 2 [0, 1],
    .read .holding 0x9001 1, .read .holding 0x9002 1]

/-- A client with three attempts does not let the failures of this device through. -/
theorem shaky_device_masked :
    let x : Stage := ⟨.start quietBench.controller shakyDevice, []⟩
    let steps := registerCalls.map Step.command
    let told := { shakyDevice with failures := fun _ => none }
    let y := x.withBench { x.bench with device := told }
    x.bench.Idle ∧ shakyDevice.delay ≤ patientClient.timeout ∧ shakyDevice.Passing 3 ∧
      (∀ c ∈ registerCalls, c.IsRequest) ∧
      ∃ rounds, ∀ more, Script.findings (rounds + more) x steps =
        Script.findings (rounds + more) y steps ∧
        (Script.stage (rounds + more) x steps).bench.device.holding =
          (Script.stage (rounds + more) y steps).bench.device.holding := by
  intro x steps told y
  have idle : x.bench.Idle := ⟨rfl, rfl, rfl, rfl⟩
  have hcalls : ∀ c ∈ registerCalls, c.IsRequest := by simp [registerCalls, Command.IsRequest]
  have hfast : shakyDevice.delay ≤ patientClient.timeout := by decide
  have hnever : ({ Device.empty with delay := 20 } : Device).Passing 3 := fun _ _ hrule => by
    cases hrule
  have hpassing : shakyDevice.Passing 3 := (hnever.failNext _ (by decide)).failNext _ (by decide)
  refine ⟨idle, hfast, hpassing, hcalls, ?_⟩
  obtain ⟨outcomes, rounds, hmasked⟩ :=
    retries_mask_failures idle (s := patientClient) rfl rfl hfast hpassing hcalls
  refine ⟨rounds, fun more => ?_⟩
  obtain ⟨hfound, hfound', -, hholding, -⟩ := hmasked more
  exact ⟨hfound.trans hfound'.symm, hholding⟩

end Session

end ChargeController
