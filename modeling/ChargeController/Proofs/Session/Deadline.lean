import ChargeController.Proofs.Bus.Attempts
import ChargeController.Proofs.Session.Flights
import ChargeController.Proofs.Telemetry.Notices

/-!
# Collections that are cut off

A collection has a deadline.  If its reads are over by then, it is what they make of it; and
otherwise it ends right at the deadline, in whatever it is waiting for: an answer, a pause between
two reads or two attempts, or the link.  It gives up the link or its place in the line, and all that
is noted of it is a failure.

* `Scene`, `timely` — what a task has to do with, and replies that keep its deadlines, as a bench
  does for a task that is alone there (`Bench.comesTo_of_orderly`).
* **`play_within`** — a talk with a deadline, beside the same talk without one.
* `play_collecting` — what is noted when the reads are over, or cut off.
* **`deadline_cuts_cleanly`** — a collection, beside its reads without a deadline.
-/

namespace ChargeController

namespace Session

open Dialogue

/-! ## Replies that keep deadlines -/

/-- What a task on a bench has to do with: a connection for its attempts, the bench, and the
requests of the task that have reached the device, with their times. -/
structure Scene (D : Type) where
  wire : D
  bench : Bench
  reached : List (Nat × Request)

variable {α D : Type} (line : Connection D) (self : Nat) (queue : Scene D → Nat)

namespace Scene

/-- The reply of a bench to a task that is alone there, and the scene after it. -/
def replied (s : Scene D) (q : Ask) : Reply q × Scene D :=
  let replied := alone line self (queue s) (s.wire, s.bench) q
  (replied.1, ⟨replied.2.1, replied.2.2, s.reached⟩)

/-- A request reaches the device. -/
def hears (s : Scene D) (r : Request) : Scene D :=
  { s with reached := s.reached ++ [(s.bench.now, r)] }

end Scene

/-- How a bench replies to a task that is alone there and may have deadlines.  A wait that would be
over only after its deadline ends there, as far as it has come; one that takes no time is never too
late. -/
def timely (s : Scene D) : (q : Ask) → Reply q × Scene D
  | .act (.answer r) => (s.hears r).replied line self queue (.act (.answer r))
  | .act a => s.replied line self queue (.act a)
  | .wait w none => s.replied line self queue (.wait w none)
  | .wait w (some deadline) =>
      let waited := s.replied line self queue (.wait w none)
      let latest := max s.bench.now deadline
      if waited.2.bench.now ≤ latest then waited
      else (.expired, { waited.2 with bench := { waited.2.bench with now := latest } })

variable {s s' s'' : Scene D} {t : Talk α}

/-! ## What reading leaves alone -/

/-- A scene has gone on, with the same monitor and the same tasks at the link apart from one. -/
structure Scene.Stays (n : Nat) (s s' : Scene D) : Prop where
  later : s.bench.now ≤ s'.bench.now
  monitor : s'.bench.monitor = s.bench.monitor
  others : s'.bench.link.line.filter (· != n) = s.bench.link.line.filter (· != n)

lemma Scene.Stays.refl {n : Nat} (s : Scene D) : s.Stays n s :=
  ⟨Nat.le_refl _, rfl, rfl⟩

lemma Scene.Stays.trans {n : Nat} (h : s.Stays n s') (h' : s'.Stays n s'') : s.Stays n s'' :=
  ⟨h.later.trans h'.later, h'.monitor.trans h.monitor, h'.others.trans h.others⟩

/-- A task that leaves the link leaves all others there as they stand. -/
lemma link_leave (b : Bench) (n : Nat) : (b.leave n).link = b.link.leave n := by
  simp only [Bench.leave]
  split
  · split
    · rfl
    · simp only [Bench.wake]
      split
      · rfl
      · rfl
  · rfl

lemma link_wake (b : Bench) (n : Nat) (woken : Woken) : (b.wake n woken).link = b.link := by
  simp only [Bench.wake]
  split
  · rfl
  · rfl

lemma line_close (b : Bench) : b.close.link.line = b.link.line := by
  have hfold (ns : List Nat) (b : Bench) :
      (ns.foldl (fun b n => b.wake n .closed) b).link = b.link := by
    induction ns generalizing b with
    | nil => rfl
    | cons n ns ih => rw [List.foldl_cons, ih, link_wake]
  rw [Bench.close, hfold]
  rfl

/-- A question about the device, the link and the time takes no time, unless it is a wait. -/
lemma replied_act (s : Scene D) {a : Act} (ha : ¬ (Ask.act a).meddles) :
    s.Stays self (s.replied line self queue (.act a)).2 ∧
      (s.replied line self queue (.act a)).2.bench.now = s.bench.now := by
  cases a with
  | answer r => exact ⟨⟨Nat.le_refl _, rfl, rfl⟩, rfl⟩
  | latency => exact ⟨⟨Nat.le_refl _, rfl, rfl⟩, rfl⟩
  | isClosed => exact ⟨.refl s, rfl⟩
  | now => exact ⟨.refl s, rfl⟩
  | unixTime => exact ⟨.refl s, rfl⟩
  | leave =>
      have hnow : (s.bench.leave self).now = s.bench.now := (leave_keeps _ _).1
      refine ⟨⟨hnow.ge, monitor_leave _ _, ?_⟩, hnow⟩
      show (s.bench.leave self).link.line.filter _ = _
      rw [link_leave, Link.leave, List.filter_filter]
      simp only [Bool.and_self]
  | close =>
      have hnow : s.bench.close.now = s.bench.now := (Bench.Rouses.close s.bench).now
      exact ⟨⟨hnow.ge, monitor_close _, congrArg _ (line_close s.bench)⟩, hnow⟩
  | _ => exact absurd trivial ha

/-- A wait without a deadline does not run out. -/
lemma replied_wait (s : Scene D) (w : Wait) :
    s.Stays self (s.replied line self queue (.wait w none)).2 ∧
      (s.replied line self queue (.wait w none)).1 ≠ .expired := by
  have inTime : Woken.inTime ≠ .expired := by decide
  have closed : Woken.closed ≠ .expired := by decide
  cases w with
  | sleep milliseconds => exact ⟨⟨Nat.le_add_right .., rfl, rfl⟩, inTime⟩
  | pause milliseconds =>
      simp only [Scene.replied, alone]
      split
      · exact ⟨.refl s, closed⟩
      · exact ⟨⟨Nat.le_add_right .., rfl, rfl⟩, inTime⟩
  | link =>
      refine ⟨⟨Nat.le_add_right .., rfl, ?_⟩, inTime⟩
      show (s.bench.link.acquire self).line.filter _ = _
      simp [Link.acquire]

/-- Requests reach the device when they are made. -/
lemma timely_act (s : Scene D) {a : Act} (ha : ¬ (Ask.act a).meddles) :
    ∃ heard : List (Nat × Request), (∀ x ∈ heard, x.1 = s.bench.now) ∧
      (timely line self queue s (.act a)).2.reached = s.reached ++ heard ∧
      s.Stays self (timely line self queue s (.act a)).2 ∧
      (timely line self queue s (.act a)).2.bench.now = s.bench.now := by
  cases a with
  | answer r =>
      obtain ⟨hstays, hnow⟩ := replied_act line self queue (s.hears r) ha
      exact ⟨[(s.bench.now, r)], by simp, rfl, ⟨hstays.later, hstays.monitor, hstays.others⟩, hnow⟩
  | _ => exact ⟨[], nofun, (List.append_nil _).symm, replied_act line self queue s ha⟩

/-- What a talk leaves alone, and when its requests reach the device. -/
lemma play_harmless (ht : Harmless t) (s : Scene D) :
    ∃ new : List (Nat × Request), (∀ x ∈ new, s.bench.now ≤ x.1) ∧
      (play (timely line self queue) s t).2.2.reached = s.reached ++ new ∧
      s.Stays self (play (timely line self queue) s t).2.2 := by
  induction t generalizing s with
  | done a => exact ⟨[], nofun, (List.append_nil _).symm, .refl s⟩
  | ask q next ih =>
      rw [play_ask]
      cases q with
      | act a =>
          obtain ⟨heard, hheard, hreached, hstays, hnow⟩ :=
            timely_act line self queue s ht.1
          obtain ⟨new, hnew, hreached', hstays'⟩ := ih _ (ht.2 _) _
          refine ⟨heard ++ new, fun x hx => ?_, ?_, hstays.trans hstays'⟩
          · rcases List.mem_append.mp hx with hx | hx
            · exact (hheard x hx).ge
            · exact hnow ▸ hnew x hx
          · rw [hreached', hreached, List.append_assoc]
      | wait w deadline =>
          obtain rfl : deadline = none := not_not.mp ht.1
          obtain ⟨hstays, -⟩ := replied_wait line self queue s w
          obtain ⟨new, hnew, hreached, hstays'⟩ := ih _ (ht.2 _) _
          exact ⟨new, fun x hx => hstays.later.trans (hnew x hx), hreached, hstays.trans hstays'⟩

/-! ## A talk with a deadline -/

variable {line self queue}

/-- A wait that is over by its deadline is what it would be without. -/
lemma timely_inTime {w : Wait} {deadline : Nat} (hearly : s.bench.now ≤ deadline)
    (hover : (s.replied line self queue (.wait w none)).2.bench.now ≤ deadline) :
    timely line self queue s (.wait w (some deadline)) =
      s.replied line self queue (.wait w none) := by
  simp only [timely]
  exact if_pos (by rwa [Nat.max_eq_right hearly])

/-- A wait that is not over by its deadline ends there. -/
lemma timely_expired {w : Wait} {deadline : Nat} (hearly : s.bench.now ≤ deadline)
    (hlate : deadline < (s.replied line self queue (.wait w none)).2.bench.now) :
    timely line self queue s (.wait w (some deadline)) =
      let waited := (s.replied line self queue (.wait w none)).2
      (.expired, { waited with bench := { waited.bench with now := deadline } }) := by
  simp only [timely, Nat.max_eq_right hearly]
  exact if_neg (Nat.not_le.mpr hlate)

/-- How a talk with a deadline waits. -/
lemma within_wait (deadline : Nat) (w : Wait) (next : Reply (.wait w none) → Talk α) :
    ∃ go : Reply (.wait w (some deadline)) → Talk (Option α),
      within deadline (.ask (.wait w none) next) = .ask (.wait w (some deadline)) go ∧
      (∀ woken, woken ≠ Woken.expired → go woken = within deadline (next woken)) ∧
      go Woken.expired = .ask (.act .leave) fun _ => .done none := by
  refine ⟨_, rfl, fun woken hwoken => ?_, rfl⟩
  match woken with
  | .inTime => rfl
  | .closed => rfl
  | .expired => exact absurd rfl hwoken

variable (line self queue) in
/-- **A talk with a deadline, beside the same talk without one.**  If the talk is over by the
deadline, there is no difference.  Otherwise it ends at the deadline without a result and has given
up the link; and what has reached the device is what would have reached it by then. -/
theorem play_within (ht : Harmless t) (s : Scene D) {deadline : Nat}
    (hearly : s.bench.now ≤ deadline) :
    let whole := (play (timely line self queue) s t).2
    let cut := (play (timely line self queue) s (within deadline t)).2
    (∃ new : List (Nat × Request), whole.2.reached = s.reached ++ new ∧
      cut.2.reached = s.reached ++ new.filter (·.1 ≤ deadline)) ∧
    (whole.2.bench.now ≤ deadline → cut = (some whole.1, whole.2)) ∧
    (deadline < whole.2.bench.now → cut.1 = none ∧ cut.2.bench.now = deadline ∧
      cut.2.bench.monitor = s.bench.monitor ∧
      cut.2.bench.link.line = s.bench.link.line.filter (· != self)) := by
  induction t generalizing s with
  | done a =>
      have hnone : s.reached = s.reached ++ [] := (List.append_nil _).symm
      exact ⟨⟨[], hnone, hnone⟩, fun _ => rfl, fun hlate => absurd hlate (Nat.not_lt.mpr hearly)⟩
  | ask q next ih =>
      cases q with
      | act a =>
          obtain ⟨heard, hheard, hreached, hstays, hnow⟩ :=
            timely_act line self queue s ht.1
          obtain ⟨⟨new, hwhole, hcut⟩, hin, hlate⟩ := ih _ (ht.2 _) _ (hnow.trans_le hearly)
          have hkept : heard.filter (·.1 ≤ deadline) = heard :=
            List.filter_eq_self.mpr fun x hx => decide_eq_true ((hheard x hx).trans_le hearly)
          refine ⟨⟨heard ++ new, ?_, ?_⟩, hin, fun hover => ?_⟩
          · exact hwhole.trans (by rw [hreached, List.append_assoc])
          · exact hcut.trans (by rw [hreached, List.append_assoc, List.filter_append, hkept])
          · obtain ⟨hnone, hends, hmonitor, hline⟩ := hlate hover
            exact ⟨hnone, hends, hmonitor.trans hstays.monitor, hline.trans hstays.others⟩
      | wait w other =>
          obtain rfl : other = none := not_not.mp ht.1
          obtain ⟨hstays, hwoken⟩ := replied_wait line self queue s w
          obtain ⟨go, hgo, hnext, hexpired⟩ := within_wait deadline w next
          rw [hgo]
          dsimp only
          rw [play_ask, play_ask]
          rcases Nat.lt_or_ge deadline (s.replied line self queue (.wait w none)).2.bench.now with
            hlate | hover
          · -- The wait is cut off, and whatever would come after it comes after the deadline.
            rw [timely_expired hearly hlate, hexpired]
            obtain ⟨new, hnew, hreached, hafter⟩ := play_harmless line self queue
              (ht.2 (s.replied line self queue (.wait w none)).1)
              (s.replied line self queue (.wait w none)).2
            have hnone : new.filter (·.1 ≤ deadline) = [] := by
              refine List.filter_eq_nil_iff.mpr fun x hx hle => ?_
              exact Nat.not_lt.mpr (of_decide_eq_true hle) (hlate.trans_le (hnew x hx))
            refine ⟨⟨new, hreached, ?_⟩, fun hin => ?_, fun _ => ⟨rfl, ?_, ?_, ?_⟩⟩
            · rw [hnone, List.append_nil]
              rfl
            · exact absurd hin (Nat.not_le.mpr (hlate.trans_le hafter.later))
            · exact (leave_keeps _ _).1
            · exact (monitor_leave _ _).trans hstays.monitor
            · exact (congrArg Link.line (link_leave _ _)).trans hstays.others
          · rw [timely_inTime hearly hover, hnext _ hwoken]
            obtain ⟨hreached, hin, hlate⟩ := ih _ (ht.2 _) _ hover
            refine ⟨hreached, hin, fun hover => ?_⟩
            obtain ⟨hnone, hends, hmonitor, hline⟩ := hlate hover
            exact ⟨hnone, hends, hmonitor.trans hstays.monitor, hline.trans hstays.others⟩

/-! ## A collection under the monitor -/

/-- The same scene with another monitor. -/
def Scene.withMonitor (s : Scene D) (monitor : Monitor) : Scene D :=
  { s with bench := { s.bench with monitor } }

/-- The scene when a task has begun a collection. -/
def Scene.begun (s : Scene D) (n : Nat) : Scene D :=
  s.withMonitor { s.bench.monitor with running := some n }

/-- What is noted of a collection that has gathered something, or was cut off. -/
def entryOf : Option (Except CollectionFault Snapshot) → Monitor.Entry
  | some (.ok snapshot) => .kept snapshot
  | some (.error _) => .missed Bench.unixTime
  | none => .missed Bench.unixTime

section

variable {client : Option LinkSettings} {deadline : Nat} {p : Collection.Procedure Snapshot}

/-- How the questions of a monitored collection are replied to. -/
def monitored (line : Connection D) (self : Nat) (queue : Scene D → Nat)
    (client : Option LinkSettings) (deadline : Nat) (p : Collection.Procedure Snapshot)
    (s : Scene D) (q : Monitor.Ask) : Monitor.Reply q × Scene D :=
  (play (timely line self queue) s (settleMonitor client deadline p q)).2

/-- Metrics are published one after the other, and then the collection is over. -/
lemma play_publish (s : Scene D) (metrics : List Metric) (o : CollectionResult) :
    (play (monitored line self queue client deadline p) s
        (Monitor.publish metrics >>= fun _ => Monitor.ask .finish >>= fun _ => pure o)).2 =
      (o, s.withMonitor ((s.bench.monitor.notes (metrics.map .publish)).drop self)) := by
  induction metrics generalizing s with
  | nil => rfl
  | cons metric rest ih => exact ih (s.withMonitor (s.bench.monitor.note (.publish metric)))

/-- What is noted of a snapshot. -/
lemma play_succeed (s : Scene D) (snapshot : Snapshot) :
    let entry := Monitor.Entry.kept snapshot
    (play (monitored line self queue client deadline p) s (Monitor.succeed snapshot)).2 =
      (entry.result, s.withMonitor ((s.bench.monitor.notes entry.notices).drop self)) := by
  intro entry
  let noted := s.withMonitor ((s.bench.monitor.note (.record snapshot)).note (.retain snapshot))
  rw [Monitor.succeed, Monitor.Entry.notices, Monitor.Entry.result]
  generalize snapshot.metrics = metrics
  exact play_publish noted metrics _

/-- What is noted of a failure. -/
lemma play_fail (s : Scene D) :
    let entry := Monitor.Entry.missed Bench.unixTime
    (play (monitored line self queue client deadline p) s Monitor.fail).2 =
      (entry.result, s.withMonitor ((s.bench.monitor.notes entry.notices).drop self)) := by
  intro entry
  let noted := s.withMonitor (s.bench.monitor.note .failure)
  exact play_publish noted [Metric.ofFailure Bench.unixTime] _

/-- It does not matter to what is noted whether a collection runs. -/
lemma notes_running (m : Monitor) (r : Option Nat) (xs : List Monitor.Notice) :
    ({ m with running := r } : Monitor).notes xs = { m.notes xs with running := r } := by
  induction xs generalizing m with
  | nil => rfl
  | cons x xs ih =>
      have hnote : ({ m with running := r } : Monitor).note x = { m.note x with running := r } := by
        cases x <;> rfl
      rw [Monitor.notes_cons, hnote, ih, Monitor.notes_cons]

lemma notes_idle {m : Monitor} (hidle : m.running = none) (xs : List Monitor.Notice) :
    ({ m.notes xs with running := none } : Monitor) = m.notes xs := by
  rw [← notes_running, ← hidle]

lemma drop_notes {m : Monitor} (hidle : m.running = none) (n : Nat) (xs : List Monitor.Notice) :
    (({ m with running := some n } : Monitor).notes xs).drop n = m.notes xs := by
  rw [notes_running, Monitor.drop, if_pos rfl]
  exact notes_idle hidle xs

/-- **A collection that is not skipped** notes what it has gathered by its deadline, as if nothing
had run. -/
theorem play_collecting (hidle : s.bench.monitor.running = none) :
    let cut := (play (timely line self queue) (s.begun self)
      (within (s.bench.now + deadline) (collection client p))).2
    (play (timely line self queue) s (collecting client deadline p)).2 =
      ((entryOf cut.1).result,
        cut.2.withMonitor ((cut.2.bench.monitor.notes (entryOf cut.1).notices).drop self)) := by
  intro cut
  have hbegin : monitored line self queue client deadline p s .begin = (true, s.begun self) := by
    have hreply : s.bench.reply self .begin = (true, (s.begun self).bench) := by
      simp only [Bench.reply, Monitor.begin?, hidle]
      rfl
    show (((s.bench.reply self .begin).1, ⟨s.wire, (s.bench.reply self .begin).2, s.reached⟩) :
      Bool × Scene D) = _
    rw [hreply]
    rfl
  have hgather : monitored line self queue client deadline p (s.begun self) .gather = cut := rfl
  rw [collecting, play_settle, Monitor.collecting_eq]
  refine (play_ask _ _ Monitor.Ask.begin _).trans ?_
  rw [← monitored.eq_def, hbegin]
  refine (play_ask _ _ Monitor.Ask.gather _).trans ?_
  rw [← monitored.eq_def, hgather]
  obtain ⟨_ | _ | snapshot, s'⟩ := cut
  · exact play_fail s'
  · exact play_fail s'
  · exact play_succeed s' snapshot

/-- A collection that meets no other one is not skipped. -/
lemma not_skipped (hidle : s.bench.monitor.running = none) :
    (play (timely line self queue) s (collecting client deadline p)).2.1 ≠ .skipped := by
  rw [play_collecting hidle]
  match (play (timely line self queue) (s.begun self)
    (within (s.bench.now + deadline) (collection client p))).2.1 with
  | some (.ok snapshot) => exact nofun
  | some (.error _) => exact nofun
  | none => exact nofun

end

/-- **A deadline cuts cleanly.**  A collection is begun on a bench where none runs, through a client
or not, on any connection and with any time in the line at the link; `T` is how long its reads
would take without a deadline, until they succeed or fail.

* It ends `T` or the deadline after its start, whichever comes first; its requests reach the device
  as they would without a deadline, but none after it.
* If `T` is no longer than the deadline, it is what the reads make of it.
* Otherwise it has failed, and the failure is all that is noted of it: neither the latest snapshot
  nor a gauge nor a counter of snapshots has changed, and no metric of a snapshot is published.  It
  stands in the line at the link no more, and everyone else there stands as before.
* A collection that is asked for next is not skipped. -/
theorem deadline_cuts_cleanly (line : Connection D) (self : Nat) (queue : Scene D → Nat)
    (client : Option LinkSettings) (deadline : Nat) (strategy : Strategy) (recovery : Nat)
    (s : Scene D) (hidle : s.bench.monitor.running = none) :
    let reads := collection client (Collection.collect strategy recovery)
    let collects := collecting client deadline (Collection.collect strategy recovery)
    let whole := (play (timely line self queue) (s.begun self) reads).2
    let ended := (play (timely line self queue) s collects).2
    let before := s.bench.monitor
    let after := ended.2.bench.monitor
    ∃ (T : Nat) (requests : List (Nat × Request)),
      whole.2.bench.now = s.bench.now + T ∧ whole.2.reached = s.reached ++ requests ∧
      ended.2.bench.now = s.bench.now + min T deadline ∧
      ended.2.reached = s.reached ++ requests.filter (·.1 ≤ s.bench.now + deadline) ∧
      (T ≤ deadline →
        (∀ snapshot, whole.1 = .ok snapshot →
          ended.1 = .published 14 ∧ Monitor.Keeps snapshot before after) ∧
        ∀ fault, whole.1 = .error fault →
          ended.1 = .failed ∧ Monitor.Misses Bench.unixTime before after) ∧
      (deadline < T →
        ended.1 = .failed ∧ Monitor.Misses Bench.unixTime before after ∧
          ended.2.bench.link.line = s.bench.link.line.filter (· != self)) ∧
      ∀ (line' : Connection D) (other : Nat) (queue' : Scene D → Nat),
        (play (timely line' other queue') ended.2 collects).2.1 ≠ .skipped := by
  intro reads collects whole ended before after
  let cut := (play (timely line self queue) (s.begun self)
    (within (s.bench.now + deadline) reads)).2
  have hreads : Harmless reads := harmless_collection client _
  obtain ⟨-, -, -, hstays⟩ :=
    play_harmless line self queue hreads (s.begun self)
  obtain ⟨T, hT⟩ : ∃ T, whole.2.bench.now = s.bench.now + T :=
    Nat.exists_eq_add_of_le hstays.later
  obtain ⟨⟨requests, hwhole, hcut⟩, hin, hlate⟩ :=
    play_within line self queue hreads (s.begun self) (Nat.le_add_right s.bench.now deadline)
  have hended : ended = ((entryOf cut.1).result,
      cut.2.withMonitor ((cut.2.bench.monitor.notes (entryOf cut.1).notices).drop self)) :=
    play_collecting hidle
  have hmonitor : cut.2.bench.monitor = { before with running := some self } := by
    rcases Nat.lt_or_ge (s.bench.now + deadline) whole.2.bench.now with hover | hover
    · exact (hlate hover).2.2.1
    · rw [show cut = _ from hin hover]
      exact hstays.monitor
  have hafter : after = before.notes (entryOf cut.1).notices := by
    show ended.2.bench.monitor = _
    rw [hended, hmonitor]
    exact drop_notes hidle self _
  have hfree : ended.2.bench.monitor.running = none := by
    show after.running = none
    rw [hafter, ← notes_idle hidle]
  refine ⟨T, requests, hT, hwhole, ?_, ?_, fun hle => ?_, fun hlt => ?_, fun _ _ _ =>
    not_skipped hfree⟩
  · show ended.2.bench.now = _
    rw [hended]
    show cut.2.bench.now = _
    rcases Nat.lt_or_ge deadline T with hlt | hle
    · rw [(hlate ((Nat.add_lt_add_left hlt _).trans_eq hT.symm)).2.1, Nat.min_eq_right hlt.le]
    · rw [show cut = _ from hin (hT.trans_le (Nat.add_le_add_left hle _)), Nat.min_eq_left hle]
      exact hT
  · rw [hended]
    exact hcut
  · have hgathered : cut.1 = some whole.1 := by
      rw [show cut = _ from hin (hT.trans_le (Nat.add_le_add_left hle _))]
    refine ⟨fun snapshot hsnapshot => ?_, fun fault hfault => ?_⟩
    · rw [hafter, hended, hgathered, hsnapshot]
      exact ⟨rfl, Monitor.keeps_notes before snapshot⟩
    · rw [hafter, hended, hgathered, hfault]
      exact ⟨rfl, Monitor.misses_notes before Bench.unixTime⟩
  · obtain ⟨hnone, -, -, hline⟩ := hlate ((Nat.add_lt_add_left hlt _).trans_eq hT.symm)
    rw [hafter, hended, hnone]
    exact ⟨rfl, Monitor.misses_notes before Bench.unixTime, hline⟩

/-- A device that takes four seconds for every answer. -/
def slowDevice : Trials where
  took _ := 4000
  brought _ _ := .ok [0x05, 0x14, 0x05, 0x14]

/-- Ten reads of a slow device are cut off in the eighth. -/
theorem slow_collection_cut :
    let start : Scene Nat := ⟨0, quietBench, []⟩
    let collects := collecting none 30000 (Collection.collect .sequential 100)
    let ended := (play (timely slowDevice.connection 0 fun _ => 0) start collects).2
    start.bench.monitor.running = none ∧ ended.1 = .failed ∧ ended.2.bench.now = 30000 ∧
      ended.2.reached.map (·.1) = [4000, 8100, 12200, 16300, 20400, 24500, 28600] ∧
      ended.2.bench.monitor.latest = none := by
  obtain ⟨T, requests, hT, -, hnow, -, -, hlate, -⟩ :=
    deadline_cuts_cleanly slowDevice.connection 0 (fun _ => 0) none 30000 .sequential 100
      ⟨0, quietBench, []⟩ rfl
  have hends : (play (timely slowDevice.connection 0 fun _ => 0)
      (Scene.begun ⟨0, quietBench, []⟩ 0)
      (collection none (Collection.collect .sequential 100))).2.2.bench.now = 40900 := by
    decide +kernel
  have hlong : 40900 = T := by
    rw [hends] at hT
    exact hT.trans (Nat.zero_add T)
  subst hlong
  obtain ⟨hfailed, hmisses, -⟩ := hlate (by decide)
  exact ⟨rfl, hfailed, hnow, by decide +kernel, hmisses.latest⟩

end Session

end ChargeController
