import ChargeController.Proofs.Session.Instant
import ChargeController.Proofs.Session.Schedule

/-!
# Collecting on schedule

A collection that a controller asks for on its own is tried before time goes on.  It begins, and
turns to the device, exactly if no collection is in flight then; otherwise it is skipped, and
nothing is left of it.

* `Begins`, `Skipped` — what can become of a collection.
* `Tried` — how far a collection has come that was asked for.
* **`Move.tried`**, **`Run.tried`** — none is ever lost.
* **`collects_on_schedule`** — a controller collects on schedule, however slow its device is.
-/

namespace ChargeController

namespace Session

open Dialogue Bench

/-! ## What becomes of a collection -/

/-- What a collection turns to first: the client in front of the device, or the device. -/
def Controller.turnsTo (c : Controller) : Act :=
  match c.client with
  | some _ => .isClosed
  | none => .latency

/-- The first questions of a collection that begins: after the time and the date it turns to the
device. -/
def opening (c : Controller) (time : Nat) (answer : c.turnsTo.Reply) :
    List (Exchange Act Act.Reply) :=
  [⟨.begin, true⟩, ⟨.now, time⟩, ⟨.now, time⟩, ⟨.unixTime, unixTime⟩, ⟨c.turnsTo, answer⟩]

/-- What a task is told at one time. -/
def toldAt (time n : Nat) (es : List (Exchange Act Act.Reply)) : History :=
  es.map fun e => (time, .told n e)

/-- A task does not ask whether a collection may begin. -/
def Unasked (n : Nat) (h : History) : Prop :=
  ∀ time may, (time, .told n ⟨.begin, may⟩) ∉ h

/-- A collection has begun while none was in flight, and has turned to the device at once. -/
def Begins (c : Controller) (time n : Nat) (h : History) : Prop :=
  ∃ before answer after, h = before ++ toldAt time n (opening c time answer) ++ after ∧
    Silent n before ∧ Unasked n after ∧ ∀ m, ¬ InFlight m before

/-- A collection has been refused while another one was in flight, and that was all. -/
def Skipped (time n : Nat) (h : History) : Prop :=
  ∃ before after, h = before ++ toldAt time n [⟨.begin, false⟩] ++ after ∧
    Silent n before ∧ Silent n after ∧ ∃ m, InFlight m before

/-- A collection has been asked for at this very time, and its task has not gone on yet. -/
structure Pends (time n : Nat) (h : History) (b : Bench) : Prop where
  silent : Silent n h
  now : b.now = time
  ready : n ∈ b.ready
  task : b.task? n = some ⟨.ready (Command.collect.talk b.controller), false⟩

/-- How far a collection has come that was asked for. -/
inductive Tried (time n : Nat) (h : History) (b : Bench) : Prop
  | pends (hpends : Pends time n h b)
  | begun (hbegins : Begins b.controller time n h)
  | skipped (hskipped : Skipped time n h) (hgone : b.task? n = none)

section

variable {c : Controller} {h h' : History} {b b' : Bench} {n m time : Nat} {rest : List Nat}
  {talk : Talk Outcome} {x : Happening} {e : Exchange Act Act.Reply}

lemma Silent.unasked (hs : Silent n h) : Unasked n h :=
  fun time may => hs time ⟨.begin, may⟩

lemma unasked_append : Unasked n (h ++ h') ↔ Unasked n h ∧ Unasked n h' := by
  simp only [Unasked, List.mem_append, not_or, forall_and]

lemma Begins.append (hb : Begins c time n h) (hunasked : Unasked n h') :
    Begins c time n (h ++ h') := by
  obtain ⟨before, answer, after, rfl, hsilent, hafter, hfree⟩ := hb
  exact ⟨before, answer, after ++ h', by simp, hsilent, unasked_append.mpr ⟨hafter, hunasked⟩,
    hfree⟩

lemma Skipped.append (hs : Skipped time n h) (hsilent : Silent n h') :
    Skipped time n (h ++ h') := by
  obtain ⟨before, after, rfl, hbefore, hafter, hbusy⟩ := hs
  exact ⟨before, after ++ h', by simp, hbefore, silent_append.mpr ⟨hafter, hsilent⟩, hbusy⟩

lemma Begins.told (hb : Begins c time n h) : (time, .told n ⟨.begin, true⟩) ∈ h := by
  obtain ⟨before, answer, after, rfl, -, -, -⟩ := hb
  simp [toldAt, opening]

lemma Skipped.told (hs : Skipped time n h) : (time, .told n ⟨.begin, false⟩) ∈ h := by
  obtain ⟨before, after, rfl, -, -, -⟩ := hs
  simp [toldAt]

/-! ## What a task asks while it goes on -/

/-- Who asks for no collection is told nothing about one. -/
lemma begin_not_mem_heard (ht : NeverBegins talk) (may : Bool) :
    ⟨.begin, may⟩ ∉ heard n talk b := by
  induction talk generalizing b with
  | done outcome => exact List.not_mem_nil
  | ask q next ih =>
      cases q with
      | act a =>
          rw [heard]
          intro hmem
          rcases List.mem_cons.mp hmem with heq | hmem
          · exact ht.1 (congrArg (fun e : Exchange Act Act.Reply => Ask.act e.question) heq.symm)
          · exact ih _ (ht.2 _) hmem
      | wait w deadline =>
          rw [heard]
          split
          · exact ih _ (ht.2 _)
          · exact List.not_mem_nil

lemma neverBegins_collects (c : Controller) (may : Bool) : NeverBegins (c.collects may) :=
  (neverBegins_begun _ _ _ may).map _

/-- A collection that may begin turns to the device at once. -/
lemma exists_heard_collects (c : Controller) (n : Nat) (b : Bench) :
    ∃ answer more, heard n (c.collects true) b =
      (opening c b.now answer).tail ++ more := by
  obtain ⟨identity, strategy, recovery, pollInterval, deadline, ttl, client⟩ := c
  cases strategy with
  | sequential =>
      cases client with
      | none => exact ⟨_, _, rfl⟩
      | some s => exact ⟨_, _, rfl⟩
  | batched =>
      cases client with
      | none => exact ⟨_, _, rfl⟩
      | some s => exact ⟨_, _, rfl⟩

/-- A collection begins if none is in flight. -/
lemma heard_of_free (c : Controller) (n : Nat) (hfree : b.monitor.running = none) :
    ∃ answer more, heard n (Command.collect.talk c) b = opening c b.now answer ++ more ∧
      ∀ may, ⟨.begin, may⟩ ∉ more := by
  let begun : Bench := { b with monitor := { b.monitor with running := some n } }
  obtain ⟨answer, more, hheard⟩ := exists_heard_collects c n begun
  refine ⟨answer, more, ?_, fun may hmem => ?_⟩
  · rw [Command.talk_collect, (begins_of_none hfree).1, hheard]
    rfl
  · refine begin_not_mem_heard (n := n) (b := begun) (neverBegins_collects c true) may ?_
    rw [hheard]
    exact List.mem_append_right _ hmem

/-- A collection is refused if one is in flight, and ends at once. -/
lemma refused_of_busy (c : Controller) (n : Nat) (hbusy : b.monitor.running = some m) :
    heard n (Command.collect.talk c) b = [⟨.begin, false⟩] ∧
      resume n (Command.collect.talk c) b = b.finish n (.collected .skipped) := by
  rw [Command.talk_collect, (refused_of_some hbusy).1, (refused_of_some hbusy).2]
  exact ⟨rfl, rfl⟩

/-- A move tells a task something only when it can go on. -/
lemma Move.of_told (move : Move b h b') (htold : (time, .told n e) ∈ h) :
    ∃ talk awaited rest, b.task? n = some ⟨.ready talk, awaited⟩ ∧
      e ∈ heard n talk { b with ready := rest } := by
  cases move with
  | @goOn m rest ready =>
      obtain ⟨hn, -, -⟩ := task?_of_mem_toldTo htold
      cases hn
      unfold Bench.toldTo at htold
      split at htold
      · next talk awaited htask =>
          obtain ⟨e, he, heq⟩ := List.mem_map.mp htold
          cases heq
          exact ⟨talk, awaited, rest, htask, he⟩
      · cases htold
  | turn turns => simp [looped, added] at htold
  | jump ready turn jumps => cases htold
  | spawn c => cases htold
  | forget named => cases htold
  | cancel named => simp at htold
  | signal s => simp at htold

/-- A task that has asked something asks for no collection any more. -/
lemma Move.unasked (move : Move b h' b') (hf : Faithful h b) (hasked : ¬ Silent n h) :
    Unasked n h' := by
  intro time may htold
  obtain ⟨talk, awaited, rest, htask, hheard⟩ := move.of_told htold
  rcases (hf.stands n _ htask).2 with hnever | hsilent
  · exact begin_not_mem_heard hnever may hheard
  · exact hasked hsilent

/-- A task that is gone asks nothing. -/
lemma Move.silent (move : Move b h b') (hgone : b.task? n = none) : Silent n h := by
  intro time e htold
  obtain ⟨talk, awaited, rest, htask, -⟩ := move.of_told htold
  cases hgone.symm.trans htask

/-- A task that is gone does not come back. -/
lemma Move.gone (move : Move b h b') (hsound : b.Sound) (hn : n < b.nextTask)
    (hgone : b.task? n = none) : b'.task? n = none := by
  have hstems (hb : Stems b b') : b'.task? n = none := by
    rw [Option.eq_none_iff_forall_ne_some]
    intro t' ht'
    obtain ⟨t, ht, -⟩ := hb n t' ht'
    cases hgone.symm.trans ht
  cases move with
  | goOn ready => exact hstems stems_goOn
  | turn turns =>
      rcases looped_cases (turns.cases hsound.loop) with ⟨-, p, rfl⟩ | ⟨-, rfl⟩ | ⟨-, p, rfl⟩
      · exact hgone
      · exact hgone
      · exact (task?_spawn_of_ne (Nat.ne_of_lt hn)).trans hgone
  | jump ready turn jumps =>
      obtain ⟨-, hrouses, -⟩ := jump_cases jumps
      exact hrouses.task_none hgone
  | spawn c => exact (task?_spawn_of_ne (Nat.ne_of_lt hn)).trans hgone
  | forget named => exact hstems stems_forgetTask
  | cancel named => exact hstems stems_cancel
  | signal s => exact hgone

/-! ## No collection is lost -/

/-- A collection is tried when its task goes on. -/
lemma Pends.goOn (hp : Pends time n h b) (hf : Faithful h b) :
    Tried time n (h ++ b.toldTo n rest) (b.goOn n rest) := by
  obtain ⟨hsilent, rfl, -, htask⟩ := hp
  rw [toldTo_of_ready htask]
  cases hrunning : b.monitor.running with
  | none =>
      obtain ⟨answer, more, hheard, hmore⟩ :=
        heard_of_free (b := { b with ready := rest }) b.controller n hrunning
      refine .begun ?_
      rw [(goOn_advances b n rest).controller, hheard]
      refine ⟨h, answer, toldAt b.now n more, ?_, hsilent, ?_, (free_iff hf.tracks).mp hrunning⟩
      · simp [toldAt]
      · intro time may hmem
        obtain ⟨e, he, heq⟩ := List.mem_map.mp hmem
        cases heq
        exact hmore may he
  | some m =>
      obtain ⟨hheard, hresume⟩ :=
        refused_of_busy (b := { b with ready := rest }) b.controller n hrunning
      have hflight := (hf.tracks m).mp hrunning
      refine .skipped ?_ ?_
      · rw [hheard]
        exact ⟨h, [], by simp [toldAt], hsilent, fun _ _ => List.not_mem_nil, m, hflight⟩
      · rw [goOn_of_ready htask, hresume, finish]
        have htask' : ({ b with ready := rest } : Bench).task? n = _ := htask
        rw [htask']
        exact task?_forgetTask_self

/-- Another task goes on first. -/
lemma Pends.goOn_of_ne (hp : Pends time n h b) (hm : n ≠ m) (hready : b.ready = m :: rest) :
    Pends time n (h ++ b.toldTo m rest) (b.goOn m rest) := by
  have hadvances := goOn_advances b m rest
  refine ⟨silent_append.mpr ⟨hp.silent, silent_toldTo hm⟩, hadvances.now.trans hp.now, ?_, ?_⟩
  · have hmem := hp.ready
    obtain ⟨woken, hwoken, -⟩ := hadvances.ready
    rw [hready] at hmem
    exact hwoken ▸ List.mem_append_left _ ((List.mem_cons.mp hmem).resolve_left hm)
  · rw [hadvances.controller]
    rcases hadvances.others n hm with hsame | ⟨pending, awaited, woken, hwaits, -⟩
    · rw [hsame, hp.task]
    · cases hp.task.symm.trans hwaits

/-- Another task is dropped. -/
lemma Pends.cancel (hp : Pends time n h b) (hm : n ≠ m) :
    Pends time n (h ++ [(b.now, .dropped m)]) (b.cancel m) := by
  have hleaves := Rouses.cancel b m
  refine ⟨silent_append.mpr ⟨hp.silent, silent_dropped⟩, hleaves.now.trans hp.now, ?_, ?_⟩
  · have hkept : n ∈ b.ready.filter (· != m) := List.mem_filter.mpr ⟨hp.ready, by simpa using hm⟩
    obtain ⟨woken, hwoken, -⟩ := hleaves.ready
    exact hwoken ▸ List.mem_append_left _ hkept
  · rw [controller_cancel]
    exact hleaves.task_of_ready ((task?_forgetTask_of_ne hm).trans hp.task)

/-- Another task is added. -/
lemma Pends.spawn {c : Command} {awaited : Bool} (hp : Pends time n h b) (hsound : b.Sound) :
    Pends time n h (b.spawn c awaited) :=
  ⟨hp.silent, hp.now, List.mem_append_left _ hp.ready,
    (task?_spawn_of_ne (Nat.ne_of_lt (hsound.lt_nextTask hp.task))).trans hp.task⟩

/-- The loop goes on first. -/
lemma Pends.turned (hp : Pends time n h b) (hf : Faithful h b) (hturned : b.Turned b') :
    Pends time n (h ++ looped b b') b' := by
  rcases looped_cases hturned with ⟨heq, p, rfl⟩ | ⟨heq, rfl⟩ | ⟨heq, p, rfl⟩
  · rw [heq, List.append_nil]
    exact ⟨hp.silent, hp.now, hp.ready, hp.task⟩
  · rw [heq]
    exact ⟨silent_append.mpr ⟨hp.silent, silent_ended⟩, hp.now, hp.ready, hp.task⟩
  · rw [heq]
    have hspawned : Pends time n h (b.spawn .collect false) := hp.spawn hf.sound
    exact ⟨silent_append.mpr ⟨hp.silent, silent_polled⟩, hspawned.now, hspawned.ready,
      hspawned.task⟩

/-- A collection that has not been tried yet is tried by a move, or can still be. -/
lemma Pends.move (hp : Pends time n h b) (hf : Faithful h b) (move : Move b h' b') :
    Tried time n (h ++ h') b' := by
  have hne {m : Nat} (named : b.Named m) : n ≠ m := by
    rintro rfl
    simpa using named.2 _ hp.task
  cases move with
  | @goOn m rest hready =>
      by_cases hm : n = m
      · subst hm
        exact hp.goOn hf
      · exact .pends (hp.goOn_of_ne hm hready)
  | turn turns => exact .pends (hp.turned hf (turns.cases hf.sound.loop))
  | jump hempty turn jumps =>
      have hready := hp.ready
      rw [hempty] at hready
      cases hready
  | spawn c =>
      rw [List.append_nil]
      exact .pends (hp.spawn hf.sound)
  | forget named =>
      rw [List.append_nil]
      exact .pends ⟨hp.silent, hp.now, hp.ready, (task?_forgetTask_of_ne (hne named)).trans hp.task⟩
  | cancel named => exact .pends (hp.cancel (hne named))
  | signal s =>
      have hsilent : Silent n (h ++ [(b.now, .signal s)]) :=
        silent_append.mpr ⟨hp.silent, silent_signal⟩
      exact .pends ⟨hsilent, hp.now, hp.ready, hp.task⟩

/-- **A move loses no collection that was asked for.** -/
theorem Move.tried (move : Move b h' b') (hf : Faithful h b) (hn : n < b.nextTask)
    (ht : Tried time n h b) : Tried time n (h ++ h') b' := by
  cases ht with
  | pends hp => exact hp.move hf move
  | begun hbegins =>
      refine .begun ?_
      rw [move.controller hf.sound]
      exact hbegins.append (move.unasked hf fun hsilent => hsilent _ _ hbegins.told)
  | skipped hskipped hgone =>
      exact .skipped (hskipped.append (move.silent hgone)) (move.gone hf.sound hn hgone)

/-- A collection that is asked for has not been tried yet. -/
lemma pends_spawn {poller : Option Poller} (hsilent : Silent b.nextTask h) :
    Pends b.now b.nextTask (h ++ [(b.now, .polled b.nextTask)])
      { b.spawn .collect false with poller } :=
  ⟨silent_append.mpr ⟨hsilent, silent_polled⟩, rfl,
    List.mem_append_right _ (List.mem_singleton_self _), task?_spawn_self⟩

lemma Move.pends (move : Move b h' b') (hf : Faithful h b) (hpolled : (time, .polled n) ∈ h') :
    Pends time n (h ++ h') b' := by
  cases move with
  | goOn ready =>
      rcases aside_toldTo _ hpolled with ⟨m, e, htold⟩ | ⟨m, hdropped⟩
      · cases htold
      · cases hdropped
  | turn turns =>
      rcases looped_cases (turns.cases hf.sound.loop) with
        ⟨heq, p, rfl⟩ | ⟨heq, rfl⟩ | ⟨heq, p, rfl⟩
      · rw [heq] at hpolled
        cases hpolled
      · simp [heq] at hpolled
      · rw [heq] at hpolled ⊢
        cases List.mem_singleton.mp hpolled
        exact pends_spawn (hf.silent_of_new (Nat.le_refl _))
  | jump ready turn jumps => cases hpolled
  | spawn c => cases hpolled
  | forget named => cases hpolled
  | cancel named => simp at hpolled
  | signal s => simp at hpolled

/-- **A run loses no collection that was asked for.** -/
theorem Run.tried (run : Run b h' b') (hf : Faithful h b)
    (ht : ∀ time n, (time, .polled n) ∈ h → Tried time n h b) :
    ∀ time n, (time, .polled n) ∈ h ++ h' → Tried time n (h ++ h') b' := by
  induction run with
  | start => simpa using ht
  | next before move ih =>
      intro time n hpolled
      have hf' := before.faithful hf
      rw [← List.append_assoc] at hpolled ⊢
      rcases List.mem_append.mp hpolled with hpolled | hpolled
      · exact move.tried hf' (hf'.known _ hpolled n rfl) (ih time n hpolled)
      · exact .pends (move.pends hf' hpolled)

lemma time_of_begin {es : List (Exchange Act Act.Reply)} {before after : History} {time' : Nat}
    {may : Bool} (hbefore : Silent n before) (hafter : Unasked n after)
    (hbegin : (time', .told n ⟨.begin, may⟩) ∈ before ++ toldAt time n es ++ after) :
    time' = time := by
  rcases List.mem_append.mp hbegin with hbegin | hbegin
  · rcases List.mem_append.mp hbegin with hbegin | hbegin
    · exact absurd hbegin (hbefore _ _)
    · obtain ⟨e, -, heq⟩ := List.mem_map.mp hbegin
      cases heq
      rfl
  · exact absurd hbegin (hafter _ _)

/-- A collection asks whether it may begin only at the time at which it was asked for. -/
lemma Tried.time_eq {time' : Nat} {may : Bool} (ht : Tried time n h b)
    (hbegin : (time', .told n ⟨.begin, may⟩) ∈ h) : time' = time := by
  cases ht with
  | pends hp => exact absurd hbegin (hp.silent _ _)
  | begun hbegins =>
      obtain ⟨before, answer, after, rfl, hbefore, hafter, -⟩ := hbegins
      exact time_of_begin hbefore hafter hbegin
  | skipped hskipped =>
      obtain ⟨before, after, rfl, hbefore, hafter, -⟩ := hskipped
      exact time_of_begin hbefore hafter.unasked hbegin

/-! ## Collecting on schedule -/

/-- A bench knows its history when its loop begins. -/
lemma Faithful.startPolling (hf : Faithful h b) (hinterval : 0 < b.controller.pollInterval)
    (c : Channel) : Faithful (h ++ looped b (b.startPolling c)) (b.startPolling c) := by
  have hsound := hf.sound.startPolling c
  cases hvalue : c.value with
  | true =>
      rw [startPolling_of_stopped hinterval hvalue] at hsound ⊢
      rw [looped_ended]
      exact (hf.withPoller hsound).note (by simp [Happening.task?]) (by simp) (by simp)
  | false =>
      obtain ⟨p, heq, -, -⟩ := startPolling_of_going hinterval hvalue
      rw [heq] at hsound ⊢
      rw [looped_poller, List.append_nil]
      exact hf.withPoller hsound

/-- No collection has been asked for when the loop begins. -/
lemma pollTimes_startPolling (hinterval : 0 < b.controller.pollInterval) (c : Channel) :
    pollTimes (looped b (b.startPolling c)) = [] := by
  cases hvalue : c.value with
  | true =>
      rw [startPolling_of_stopped hinterval hvalue, looped_ended]
      rfl
  | false =>
      obtain ⟨p, heq, -, -⟩ := startPolling_of_going hinterval hvalue
      rw [heq, looped_poller]
      rfl

lemma controller_startPolling (hinterval : 0 < b.controller.pollInterval) (c : Channel) :
    (b.startPolling c).controller = b.controller := by
  cases hvalue : c.value with
  | true => rw [startPolling_of_stopped hinterval hvalue]
  | false =>
      obtain ⟨p, heq, -, -⟩ := startPolling_of_going hinterval hvalue
      rw [heq]

/-- A loop keeps to its timetable. -/
lemma Run.timetable {h₀ : History} {c : Channel} (run : Run (b.startPolling c) h b')
    (hf : Faithful h₀ b) (hinterval : 0 < b.controller.pollInterval) :
    Timetable c b.now b.controller.pollInterval (looped b (b.startPolling c) ++ h) b' := by
  have hf' := hf.startPolling hinterval c
  have hcontroller : b'.controller = b.controller := by
    rw [run.controller hf', controller_startPolling hinterval]
  have hscheduled := run.onSchedule hf' (onSchedule_startPolling hinterval c)
  rw [← hcontroller]
  refine hscheduled.timetable (run.faithful hf').sound fun hvalue => ?_
  have hoff : (b.startPolling c).poller = none := by
    rw [startPolling_of_stopped hinterval hvalue]
  rw [pollTimes_append, pollTimes_startPolling hinterval]
  exact run.idle hf' hoff

/-- **A controller collects on schedule, however slow its device is, until it is told to stop.**  It
asks for a collection at exactly the times `start`, `start + interval`, `start + 2 * interval` and
so on, until its loop comes to its end; and that is in the instant in which the last value on the
channel says so or nobody is left to send one, and at no other time.  Each of these collections
begins at its time if none is in flight then, and is skipped otherwise, as soon as the tasks of that
instant have gone on, which they do; and as long as nobody stops it, every time comes. -/
theorem collects_on_schedule {controller : Controller} {device : Device} {h₀ : History}
    {b₀ : Bench} {c : Channel} (hinterval : 0 < controller.pollInterval)
    (before : Run (.start controller device) h₀ b₀) (run : Run (b₀.startPolling c) h b) :
    let own := looped b₀ (b₀.startPolling c) ++ h
    Timetable c b₀.now controller.pollInterval own b ∧
      (∀ time n, (time, .polled n) ∈ own →
        Begins controller time n (h₀ ++ own) ∨ Skipped time n (h₀ ++ own) ∨
          Pends time n (h₀ ++ own) b) ∧
      (∀ time n, (time, .polled n) ∈ own →
        ∀ time' may, (time', .told n ⟨.begin, may⟩) ∈ h₀ ++ own →
          time' = time ∧ time' ≤ (endTime? own).getD b.now) ∧
      (∃ rounds, ∀ more, (b.settle (rounds + more)).AtRest ∧
        (b.settle (rounds + more)).now = b.now) ∧
      (b.poller ≠ none → saysStop c own = false → ∀ time, ∃ rounds, ∀ more,
        let later := runUntil (fun b => time ≤ b.now) (rounds + more) b
        time ≤ later.now ∧ later.AtRest) := by
  intro own
  have hf₀ : Faithful h₀ b₀ := before.faithful (faithful_start controller device)
  have hcontroller₀ : b₀.controller = controller :=
    before.controller (faithful_start controller device)
  rw [← hcontroller₀] at hinterval ⊢
  have hf₁ := hf₀.startPolling hinterval c
  have hf : Faithful (h₀ ++ own) b := by
    rw [← List.append_assoc]
    exact run.faithful hf₁
  have hcontroller : b.controller = b₀.controller := by
    rw [run.controller hf₁, controller_startPolling hinterval]
  -- Nothing had been asked for before the loop began, so nothing had been left untried.
  have hnone : pollTimes (h₀ ++ looped b₀ (b₀.startPolling c)) = [] := by
    rw [pollTimes_append, pollTimes_startPolling hinterval,
      (before.idle (faithful_start controller device) rfl).1]
    rfl
  have htried (time n : Nat) (hpolled : (time, .polled n) ∈ own) : Tried time n (h₀ ++ own) b := by
    rw [← List.append_assoc]
    refine run.tried hf₁ (fun time n hold => ?_) time n ?_
    · have htime := mem_pollTimes.mpr ⟨n, hold⟩
      rw [hnone] at htime
      cases htime
    · rw [List.append_assoc]
      exact List.mem_append_right _ hpolled
  have htimetable := run.timetable hf₀ hinterval
  refine ⟨htimetable, fun time n hpolled => ?_, fun time n hpolled time' may hbegin => ?_, ?_,
    fun hgoes hstop => ?_⟩
  · cases htried time n hpolled with
    | pends hp => exact .inr (.inr hp)
    | begun hbegins => exact .inl (hcontroller ▸ hbegins)
    | skipped hskipped => exact .inr (.inl hskipped)
  · obtain rfl := (htried time n hpolled).time_eq hbegin
    exact ⟨rfl, htimetable.le_end hpolled⟩
  · obtain ⟨rounds, b', hrun, hrest, -, hnow, -⟩ := settles (fun _ => true) hf.sound
    refine ⟨rounds, fun more => ?_⟩
    rw [Bench.settle, hrun, runUntil_of_goal hrest rfl]
    exact ⟨hrest, hnow⟩
  · have hscheduled := run.onSchedule hf₁ (onSchedule_startPolling hinterval c)
    exact reaches hf.sound (hscheduled.collects hgoes hstop)

/-- A controller that collects every second, and gives up after a second and a half. -/
def hastyController : Controller where
  identity := ⟨"roof", "model"⟩
  strategy := .sequential
  recovery := 0
  pollInterval := 1000
  deadline := 1500
  ttl := 0
  client := none

/-- A device that takes five seconds for every answer. -/
def sluggishDevice : Device :=
  { Device.empty with delay := 5000 }

/-- What was said at a time to whoever asked whether a collection may begin. -/
def rulings (time : Nat) (h : History) : List Bool :=
  h.filterMap fun
    | (time', .told _ ⟨.begin, may⟩) => if time' = time then some may else none
    | _ => none

lemma mem_rulings {may : Bool} (hbegin : (time, .told n ⟨.begin, may⟩) ∈ h) :
    may ∈ rulings time h :=
  List.mem_filterMap.mpr ⟨_, hbegin, if_pos rfl⟩

/-- Of the first three collections from a slow device the second is skipped.  That a value changes
to `false` has no effect, and that it changes to `true` ends the collecting. -/
theorem slow_device_skipped :
    let b₀ := Bench.start hastyController sluggishDevice
    let c := Channel.opened false
    let b₁ := (b₀.startPolling c).signal (.value false)
    let b₂ := runUntil (fun b => 2000 ≤ b.now) 60 b₁
    let b₃ := b₂.signal (.value true)
    let b := b₃.settle 20
    let h := [(0, .signal (.value false))] ++ historyUntil (fun b => 2000 ≤ b.now) 60 b₁ ++
      [(2000, .signal (.value true))] ++ historyUntil (fun _ => true) 20 b₃
    let own := looped b₀ (b₀.startPolling c) ++ h
    0 < hastyController.pollInterval ∧ Run b₀ [] b₀ ∧ Run (b₀.startPolling c) h b ∧
      pollTimes own = [0, 1000, 2000] ∧ endTime? own = some 2000 ∧ b.poller = none ∧
      (∃ n, (0, .polled n) ∈ own ∧ Begins hastyController 0 n own) ∧
      (∃ n, (1000, .polled n) ∈ own ∧ Skipped 1000 n own) ∧
      (∃ n, (2000, .polled n) ∈ own ∧ Begins hastyController 2000 n own) := by
  intro b₀ c b₁ b₂ b₃ b h own
  have hinterval : 0 < hastyController.pollInterval := by decide
  have before : Run b₀ [] b₀ := .start
  have hnow : b₂.now = 2000 := by decide +kernel
  have run : Run (b₀.startPolling c) h b := by
    have hears : Run (b₀.startPolling c) [(0, .signal (.value false))] b₁ := .single (.signal _)
    have hstops : Run b₂ [(2000, .signal (.value true))] b₃ := hnow ▸ .single (.signal _)
    exact ((hears.trans (run_historyUntil _ _ _)).trans hstops).trans (run_historyUntil _ _ _)
  obtain ⟨htimetable, htried, -⟩ := collects_on_schedule hinterval before run
  have htimes : pollTimes own = [0, 1000, 2000] := by decide +kernel
  have hend : endTime? own = some 2000 := by decide +kernel
  have hready : b.ready = [] := by decide +kernel
  have hover : b.poller = none := htimetable.isOver.mpr (congrArg Option.isSome hend)
  have hdecided (time : Nat) (htime : time ∈ [0, 1000, 2000]) : ∃ n, (time, .polled n) ∈ own ∧
      (Begins hastyController time n own ∨ Skipped time n own) := by
    rw [← htimes] at htime
    obtain ⟨n, hpolled⟩ := mem_pollTimes.mp htime
    rcases htried time n hpolled with hbegins | hskipped | hpends
    · exact ⟨n, hpolled, .inl hbegins⟩
    · exact ⟨n, hpolled, .inr hskipped⟩
    · cases hready ▸ hpends.ready
  refine ⟨hinterval, before, run, htimes, hend, hover, ?_, ?_, ?_⟩
  · obtain ⟨n, hpolled, hbegins | hskipped⟩ := hdecided 0 (by simp)
    · exact ⟨n, hpolled, hbegins⟩
    · exact absurd (mem_rulings hskipped.told) (by decide +kernel)
  · obtain ⟨n, hpolled, hbegins | hskipped⟩ := hdecided 1000 (by simp)
    · exact absurd (mem_rulings hbegins.told) (by decide +kernel)
    · exact ⟨n, hpolled, hskipped⟩
  · obtain ⟨n, hpolled, hbegins | hskipped⟩ := hdecided 2000 (by simp)
    · exact ⟨n, hpolled, hbegins⟩
    · exact absurd (mem_rulings hskipped.told) (by decide +kernel)

end

end Session

end ChargeController
