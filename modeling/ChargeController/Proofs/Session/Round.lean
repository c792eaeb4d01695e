import ChargeController.Proofs.Dialogue.Transcript
import ChargeController.Proofs.Session.Looping
import Mathlib.Data.List.Nodup

/-!
# Rounds on a bench

In a round a task goes on, or the loop that collects does, or the clock jumps.  Whatever a task asks
while it goes on, all that it may do to the other tasks is to end their waits, and so may the clock.

* `Bench.Roused`, `Bench.Rouses` — a wait has ended; nothing else has happened to the tasks.
* **`Bench.resume_cases`** — a task goes on, among the others, until it ends or begins to wait.
* **`Bench.jump_cases`** — the clock jumps to a time at which something is due.
* `Bench.Sound` — the numbers of the tasks are different, and nothing is overdue.
* **`Bench.Sound.goOn`**, **`Bench.Sound.turned`**, **`Bench.Sound.jump`** — rounds keep a bench
  sound.
-/

namespace ChargeController

namespace Session

namespace Bench

open Dialogue

variable {b b' b'' : Bench} {n m : Nat} {t : Task} {progress : Progress} {pending : Pending}
  {awaited : Bool} {talk : Talk Outcome}

/-! ## Tasks and their numbers -/

/-- The numbers of the tasks. -/
def numbers (b : Bench) : List Nat :=
  b.tasks.map (·.1)

lemma lookup_cons_eq {tasks : List (Nat × Task)} :
    ((m, t) :: tasks).lookup n = if n = m then some t else tasks.lookup n := by
  by_cases h : n = m
  · simp [h]
  · simp [List.lookup_cons, beq_eq_false_iff_ne.mpr h, h]

lemma task?_setProgress (b : Bench) (n : Nat) (progress : Progress) (m : Nat) :
    (b.setProgress n progress).task? m =
      (b.task? m).map fun t => if m = n then { t with progress } else t := by
  simp only [task?, setProgress]
  induction b.tasks with
  | nil => rfl
  | cons head rest ih =>
      obtain ⟨k, t⟩ := head
      simp only [List.map_cons, lookup_cons_eq, ih]
      by_cases hk : m = k
      · simp [hk]
      · simp [hk]

@[simp] lemma task?_setProgress_self (h : b.task? n = some t) :
    (b.setProgress n progress).task? n = some { t with progress } := by
  simp [task?_setProgress, h]

@[simp] lemma task?_setProgress_of_ne (hne : m ≠ n) :
    (b.setProgress n progress).task? m = b.task? m := by
  simp [task?_setProgress, hne]

lemma task?_forgetTask (b : Bench) (n m : Nat) :
    (b.forgetTask n).task? m = if m = n then none else b.task? m := by
  simp only [task?, forgetTask]
  induction b.tasks with
  | nil => simp
  | cons head rest ih =>
      obtain ⟨k, t⟩ := head
      simp only [List.filter_cons, lookup_cons_eq, bne_iff_ne]
      by_cases hk : k = n
      · subst hk
        by_cases hm : m = k
        · simp [hm] at ih ⊢
          exact ih
        · simp [hm] at ih ⊢
          exact ih
      · simp only [ne_eq, hk, not_false_eq_true, if_true, lookup_cons_eq, ih]
        by_cases hm : m = k
        · simp [hm, hk]
        · simp [hm]

@[simp] lemma task?_forgetTask_self : (b.forgetTask n).task? n = none := by
  simp [task?_forgetTask]

@[simp] lemma task?_forgetTask_of_ne (hne : m ≠ n) : (b.forgetTask n).task? m = b.task? m := by
  simp [task?_forgetTask, hne]

@[simp] lemma task?_spawn_self {c : Command} :
    (b.spawn c awaited).task? b.nextTask = some ⟨.ready (c.talk b.controller), awaited⟩ := by
  simp [task?, spawn]

@[simp] lemma task?_spawn_of_ne {c : Command} (hne : m ≠ b.nextTask) :
    (b.spawn c awaited).task? m = b.task? m := by
  simp [task?, spawn, lookup_cons_eq, hne]

lemma mem_tasks_of_task? (h : b.task? n = some t) : (n, t) ∈ b.tasks := by
  obtain ⟨earlier, later, htasks, -⟩ := List.lookup_eq_some_iff.mp h
  simp [htasks]

lemma mem_numbers_of_task? (h : b.task? n = some t) : n ∈ b.numbers :=
  List.mem_map_of_mem (mem_tasks_of_task? h)

lemma task?_of_mem_tasks (hnodup : b.numbers.Nodup) (h : (n, t) ∈ b.tasks) :
    b.task? n = some t := by
  obtain ⟨earlier, later, htasks⟩ := List.append_of_mem h
  refine List.lookup_eq_some_iff.mpr ⟨earlier, later, htasks, ?_⟩
  intro p hp
  simp only [numbers, htasks, List.map_append, List.map_cons, List.nodup_append] at hnodup
  have hne := hnodup.2.2 p.1 (List.mem_map_of_mem hp) n List.mem_cons_self
  simpa using hne.symm

@[simp] lemma numbers_setProgress : (b.setProgress n progress).numbers = b.numbers := by
  simp [numbers, setProgress, Function.comp_def]

lemma numbers_forgetTask_sublist : (b.forgetTask n).numbers.Sublist b.numbers := by
  simp only [numbers, forgetTask]
  exact List.filter_sublist.map _

@[simp] lemma numbers_spawn {c : Command} :
    (b.spawn c awaited).numbers = b.nextTask :: b.numbers := by
  simp [numbers, spawn]

/-! ## Waits that end -/

/-- The wait of a task has ended. -/
def Roused (b b' : Bench) (n : Nat) : Prop :=
  ∃ pending awaited woken, b.task? n = some ⟨.waiting pending, awaited⟩ ∧
    b'.task? n = some ⟨.ready (pending.next woken), awaited⟩

/-- All that has happened to the tasks and the clock is that some waits have ended. -/
structure Rouses (b b' : Bench) : Prop where
  controller : b'.controller = b.controller
  now : b'.now = b.now
  nextTask : b'.nextTask = b.nextTask
  poller : b'.poller = b.poller
  numbers : b'.numbers = b.numbers
  task : ∀ n, b'.task? n = b.task? n ∨ Roused b b' n
  ready : ∃ woken, b'.ready = b.ready ++ woken ∧ ∀ n ∈ woken, Roused b b' n

namespace Rouses

lemma of_same (hcontroller : b'.controller = b.controller) (hnow : b'.now = b.now)
    (htasks : b'.tasks = b.tasks) (hready : b'.ready = b.ready)
    (hnext : b'.nextTask = b.nextTask) (hpoller : b'.poller = b.poller) : Rouses b b' where
  controller := hcontroller
  now := hnow
  nextTask := hnext
  poller := hpoller
  numbers := by rw [Bench.numbers, htasks, Bench.numbers]
  task n := .inl (by rw [task?, htasks, task?])
  ready := ⟨[], by simp [hready]⟩

@[simp] lemma refl (b : Bench) : Rouses b b :=
  .of_same rfl rfl rfl rfl rfl rfl

/-- Who can go on is not roused again. -/
lemma task_of_ready (h : Rouses b b') (hready : b.task? n = some ⟨.ready talk, awaited⟩) :
    b'.task? n = some ⟨.ready talk, awaited⟩ := by
  rcases h.task n with hsame | ⟨pending, awaited', woken, hwaiting, -⟩
  · rw [hsame, hready]
  · rw [hready] at hwaiting
    cases hwaiting

/-- Who waits has waited before. -/
lemma task_of_waiting (h : Rouses b b') (hwaits : b'.task? n = some ⟨.waiting pending, awaited⟩) :
    b.task? n = some ⟨.waiting pending, awaited⟩ := by
  rcases h.task n with hsame | ⟨pending', awaited', woken, -, hroused⟩
  · rw [← hsame, hwaits]
  · rw [hwaits] at hroused
    cases hroused

/-- Nobody new comes in. -/
lemma task_none (h : Rouses b b') (hnone : b.task? n = none) : b'.task? n = none := by
  rcases h.task n with hsame | ⟨pending, awaited, woken, hwaiting, -⟩
  · rw [hsame, hnone]
  · rw [hnone] at hwaiting
    cases hwaiting

lemma trans (h : Rouses b b') (h' : Rouses b' b'') : Rouses b b'' := by
  have hfirst (n : Nat) (hroused : Roused b b' n) : Roused b b'' n := by
    obtain ⟨pending, awaited, woken, hwaiting, hready⟩ := hroused
    exact ⟨pending, awaited, woken, hwaiting, h'.task_of_ready hready⟩
  have hsecond (n : Nat) (hroused : Roused b' b'' n) : Roused b b'' n := by
    obtain ⟨pending, awaited, woken, hwaiting, hready⟩ := hroused
    exact ⟨pending, awaited, woken, h.task_of_waiting hwaiting, hready⟩
  refine ⟨h'.controller.trans h.controller, h'.now.trans h.now, h'.nextTask.trans h.nextTask,
    h'.poller.trans h.poller, h'.numbers.trans h.numbers, ?_, ?_⟩
  · intro n
    rcases h'.task n with hsame | hroused
    · rw [hsame]
      exact (h.task n).imp_right (hfirst n)
    · exact .inr (hsecond n hroused)
  · obtain ⟨woken, hready, hwoken⟩ := h.ready
    obtain ⟨woken', hready', hwoken'⟩ := h'.ready
    refine ⟨woken ++ woken', by simp [hready', hready], ?_⟩
    intro n hn
    rcases List.mem_append.mp hn with hn | hn
    · exact hfirst n (hwoken n hn)
    · exact hsecond n (hwoken' n hn)

lemma foldl {f : Bench → Nat → Bench} (hf : ∀ b n, Rouses b (f b n)) (ns : List Nat) (b : Bench) :
    Rouses b (ns.foldl f b) := by
  induction ns generalizing b with
  | nil => exact refl b
  | cons n rest ih => exact (hf b n).trans (ih (f b n))

lemma wake (b : Bench) (n : Nat) (woken : Woken) : Rouses b (b.wake n woken) := by
  unfold Bench.wake
  split
  · next pending awaited hwaiting =>
      have hroused : Roused b { b.setProgress n (.ready (pending.next woken)) with
          ready := b.ready ++ [n] } n :=
        ⟨pending, awaited, woken, hwaiting, task?_setProgress_self hwaiting⟩
      refine ⟨rfl, rfl, rfl, rfl, numbers_setProgress, ?_, [n], rfl, ?_⟩
      · intro m
        by_cases hm : m = n
        · subst hm
          exact .inr hroused
        · exact .inl (task?_setProgress_of_ne hm)
      · intro m hm
        rwa [List.mem_singleton.mp hm]
  · exact refl b

/-- The clock ends the wait of a task that is due. -/
lemma wakeIfDue (b : Bench) (n : Nat) : Rouses b (b.wakeIfDue n) := by
  unfold Bench.wakeIfDue
  split
  · split_ifs
    · exact wake ..
    · exact wake ..
    · exact refl b
  · exact refl b

/-- Who leaves the link may rouse the next one. -/
lemma leave (b : Bench) (n : Nat) : Rouses b (b.leave n) := by
  have hleft : Rouses b { b with link := b.link.leave n } := .of_same rfl rfl rfl rfl rfl rfl
  unfold Bench.leave
  dsimp only
  split
  · split_ifs
    · exact hleft
    · exact hleft.trans (wake ..)
  · exact hleft

/-- Closing the link rouses whoever pauses. -/
lemma close (b : Bench) : Rouses b b.close := by
  have hclosed : Rouses b { b with link := b.link.close } := .of_same rfl rfl rfl rfl rfl rfl
  exact hclosed.trans (foldl (fun b n => wake b n .closed) ..)

/-- An answer that takes no time rouses the others at most. -/
lemma reply (b : Bench) (self : Nat) (a : Act) : Rouses b (b.reply self a).2 := by
  cases a with
  | leave => exact leave b self
  | close => exact close b
  | begin =>
      simp only [Bench.reply]
      split
      · exact .of_same rfl rfl rfl rfl rfl rfl
      · exact refl b
  | _ => exact .of_same rfl rfl rfl rfl rfl rfl

lemma beginWait (b : Bench) (self : Nat) (deadline : Option Nat) (w : Wait) :
    Rouses b (b.beginWait self deadline w).2 := by
  cases w with
  | sleep milliseconds => exact refl b
  | pause milliseconds =>
      simp only [Bench.beginWait]
      split_ifs
      · exact refl b
      · exact refl b
  | link =>
      simp only [Bench.beginWait]
      split_ifs
      · exact .of_same rfl rfl rfl rfl rfl rfl
      · exact .of_same rfl rfl rfl rfl rfl rfl
      · exact .of_same rfl rfl rfl rfl rfl rfl

end Rouses

/-- The same bench without a task that is dropped, before it leaves the link. -/
def withoutTask (b : Bench) (n : Nat) : Bench :=
  { b.forgetTask n with
    ready := b.ready.filter (· != n)
    monitor := b.monitor.drop n }

/-- A task that is dropped may end the wait of the next one for the link. -/
lemma Rouses.cancel (b : Bench) (n : Nat) : Rouses (b.withoutTask n) (b.cancel n) :=
  leave (b.withoutTask n) n

/-! ## A task goes on -/

lemma lt_of_not_isPast {deadline : Option Nat} (h : ¬ b.isPast deadline = true) :
    ∀ time ∈ deadline, b.now < time := by
  rintro time rfl
  simpa [isPast] using h

/-- Whoever begins to wait is not overdue. -/
lemma beginWait_due {deadline wake : Option Nat} {w : Wait} {ends : Bool}
    {next : Woken → Talk Outcome} (h : b.beginWait n deadline w = (.inr wake, b')) :
    ∀ time ∈ dueTime ⟨wake, ends, deadline, next⟩, b.now < time := by
  have hrest {milliseconds : Nat} (h : b.beginRest milliseconds deadline = .inr wake) :
      ∀ time ∈ dueTime ⟨wake, ends, deadline, next⟩, b.now < time := by
    unfold beginRest at h
    split_ifs at h with hzero hpast
    cases h
    rintro time htime
    cases deadline with
    | none =>
        simp only [dueTime, earlier, Option.mem_def, Option.some.injEq] at htime
        omega
    | some deadline =>
        have hlt := lt_of_not_isPast hpast deadline rfl
        simp only [dueTime, earlier, Option.mem_def, Option.some.injEq] at htime
        omega
  cases w with
  | sleep milliseconds => exact hrest (congrArg Prod.fst h)
  | pause milliseconds =>
      simp only [beginWait] at h
      split_ifs at h
      · cases h
      · exact hrest (congrArg Prod.fst h)
  | link =>
      simp only [beginWait] at h
      split_ifs at h with hholder hpast
      · cases h
      · cases h
      · cases h
        exact lt_of_not_isPast hpast

/-- **A task goes on until it ends or begins to wait.**  What it does then is what it would have
done next, and its wait is not overdue. -/
theorem resume_cases (n : Nat) (talk : Talk Outcome) (b : Bench) :
    ∃ b', Rouses b b' ∧
      ((∃ outcome, resume n talk b = b'.finish n outcome) ∨
        ∃ pending es w deadline, resume n talk b = b'.setProgress n (.waiting pending) ∧
          Leads talk es (.ask (.wait w deadline) pending.next) ∧
          ∀ time ∈ dueTime pending, b.now < time) := by
  induction talk generalizing b with
  | done outcome => exact ⟨b, .refl b, .inl ⟨outcome, rfl⟩⟩
  | ask q next ih =>
      cases q with
      | act a =>
          obtain ⟨b', hrouses, hends⟩ := ih (b.reply n a).1 (b.reply n a).2
          have hreply := Rouses.reply b n a
          refine ⟨b', hreply.trans hrouses, ?_⟩
          rcases hends with hends | ⟨pending, es, w, deadline, hwaits, hleads, hdue⟩
          · exact .inl hends
          · rw [hreply.now] at hdue
            exact .inr ⟨pending, _, w, deadline, hwaits, .ask hleads, hdue⟩
      | wait w deadline =>
          rw [resume.eq_def]
          dsimp only
          have hbegins := Rouses.beginWait b n deadline w
          rcases hbegin : b.beginWait n deadline w with ⟨woken | wake, b₁⟩
          · rw [hbegin] at hbegins
            obtain ⟨b', hrouses, hends⟩ := ih woken b₁
            refine ⟨b', hbegins.trans hrouses, ?_⟩
            rcases hends with hends | ⟨pending, es, w', deadline', hwaits, hleads, hdue⟩
            · exact .inl hends
            · rw [hbegins.now] at hdue
              exact .inr ⟨pending, _, w', deadline', hwaits, .ask hleads, hdue⟩
          · rw [hbegin] at hbegins
            exact ⟨b₁, hbegins, .inr ⟨_, [], w, deadline, rfl, .stay _, beginWait_due hbegin⟩⟩

/-- Nothing that matters to other tasks is different. -/
structure Apart (n : Nat) (b b' : Bench) : Prop where
  controller : b'.controller = b.controller
  now : b'.now = b.now
  nextTask : b'.nextTask = b.nextTask
  poller : b'.poller = b.poller
  ready : b'.ready = b.ready
  others : ∀ m, m ≠ n → b'.task? m = b.task? m

lemma apart_setProgress : Apart n b (b.setProgress n progress) :=
  ⟨rfl, rfl, rfl, rfl, rfl, fun _ hm => task?_setProgress_of_ne hm⟩

lemma apart_finish {outcome : Outcome} : Apart n b (b.finish n outcome) := by
  unfold finish
  split
  · exact apart_setProgress
  · exact ⟨rfl, rfl, rfl, rfl, rfl, fun _ hm => task?_forgetTask_of_ne hm⟩

/-- A task that has ended is gone, or its outcome is kept. -/
lemma ended_of_finish {outcome : Outcome} (h : (b.finish n outcome).task? n = some t) :
    t.progress = .ended outcome := by
  unfold finish at h
  split at h
  · next progress htask =>
      rw [task?_setProgress_self htask] at h
      cases h
      rfl
  · rw [task?_forgetTask_self] at h
    cases h

/-- A task has gone on, and nothing has happened to the others but that waits have ended. -/
structure Advances (n : Nat) (rest : List Nat) (b b' : Bench) : Prop where
  controller : b'.controller = b.controller
  now : b'.now = b.now
  nextTask : b'.nextTask = b.nextTask
  poller : b'.poller = b.poller
  others : ∀ m, m ≠ n → b'.task? m = b.task? m ∨ Roused b b' m
  ready : ∃ woken, b'.ready = rest ++ woken ∧ ∀ m ∈ woken, Roused b b' m

/-- A task that cannot go on is passed over. -/
lemma goOn_of_not_ready {rest : List Nat}
    (h : ∀ talk awaited, b.task? n ≠ some ⟨.ready talk, awaited⟩) :
    b.goOn n rest = { b with ready := rest } := by
  unfold goOn
  dsimp only
  split
  · next talk awaited htask => exact absurd htask (h talk awaited)
  · rfl

lemma goOn_of_ready {rest : List Nat} (h : b.task? n = some ⟨.ready talk, awaited⟩) :
    b.goOn n rest = resume n talk { b with ready := rest } := by
  have htask : ({ b with ready := rest } : Bench).task? n = some ⟨.ready talk, awaited⟩ := h
  simp only [goOn, htask]

/-- **A task that goes on leaves the others alone**, except that it may end their waits. -/
theorem goOn_advances (b : Bench) (n : Nat) (rest : List Nat) :
    Advances n rest b (b.goOn n rest) := by
  by_cases hready : ∃ talk awaited, b.task? n = some ⟨.ready talk, awaited⟩
  · obtain ⟨talk, awaited, htask⟩ := hready
    rw [goOn_of_ready htask]
    obtain ⟨b₁, hrouses, hends⟩ := resume_cases n talk { b with ready := rest }
    have hapart : Apart n b₁ (resume n talk { b with ready := rest }) := by
      rcases hends with ⟨outcome, hends⟩ | ⟨pending, -, -, -, hwaits, -, -⟩
      · rw [hends]
        exact apart_finish
      · rw [hwaits]
        exact apart_setProgress
    have hroused (m : Nat) (hroused : Roused { b with ready := rest } b₁ m) :
        Roused b (resume n talk { b with ready := rest }) m := by
      obtain ⟨pending, awaited', woken, hwaits, hready⟩ := hroused
      refine ⟨pending, awaited', woken, hwaits, ?_⟩
      rw [hapart.others m ?_, hready]
      rintro rfl
      cases hwaits.symm.trans htask
    refine ⟨hapart.controller.trans hrouses.controller, hapart.now.trans hrouses.now,
      hapart.nextTask.trans hrouses.nextTask, hapart.poller.trans hrouses.poller, ?_, ?_⟩
    · intro m hm
      rw [hapart.others m hm]
      exact (hrouses.task m).imp_right (hroused m)
    · obtain ⟨woken, hready, hwoken⟩ := hrouses.ready
      exact ⟨woken, hapart.ready.trans hready, fun m hm => hroused m (hwoken m hm)⟩
  · rw [goOn_of_not_ready (by simpa using hready)]
    exact ⟨rfl, rfl, rfl, rfl, fun m _ => .inl rfl, [], by simp, by simp⟩

/-! ## The clock -/

lemma exists_of_mem_dueTimes {time : Nat} (h : time ∈ b.dueTimes) :
    ∃ n pending awaited, (n, ⟨.waiting pending, awaited⟩) ∈ b.tasks ∧
      dueTime pending = some time := by
  obtain ⟨⟨n, progress, awaited⟩, hmem, hdue⟩ := List.mem_filterMap.mp h
  cases progress with
  | waiting pending => exact ⟨n, pending, awaited, hmem, hdue⟩
  | ready talk => cases hdue
  | ended outcome => cases hdue

lemma task?_wake (h : b.task? n = some ⟨.waiting pending, awaited⟩) (woken : Woken) :
    (b.wake n woken).task? n = some ⟨.ready (pending.next woken), awaited⟩ := by
  simp only [wake, h]
  exact task?_setProgress_self h

@[simp] lemma monitor_wake (b : Bench) (n : Nat) (woken : Woken) :
    (b.wake n woken).monitor = b.monitor := by
  unfold Bench.wake
  split
  · rfl
  · rfl

@[simp] lemma monitor_wakeIfDue (b : Bench) (n : Nat) : (b.wakeIfDue n).monitor = b.monitor := by
  unfold Bench.wakeIfDue
  split
  · split_ifs
    · exact monitor_wake ..
    · exact monitor_wake ..
    · rfl
  · rfl

lemma monitor_foldl {f : Bench → Nat → Bench} (hf : ∀ b n, (f b n).monitor = b.monitor)
    (ns : List Nat) (b : Bench) : (ns.foldl f b).monitor = b.monitor := by
  induction ns generalizing b with
  | nil => rfl
  | cons n rest ih => rw [List.foldl_cons, ih, hf]

/-- Whoever still waits after being looked at is not due yet. -/
lemma due_of_wakeIfDue (h : (b.wakeIfDue n).task? n = some ⟨.waiting pending, awaited⟩) :
    ∀ time ∈ dueTime pending, b.now < time := by
  have hwaits := (Rouses.wakeIfDue b n).task_of_waiting h
  have hwoken (woken : Woken) : (b.wake n woken).task? n ≠ some ⟨.waiting pending, awaited⟩ := by
    rw [task?_wake hwaits]
    simp
  simp only [wakeIfDue, hwaits] at h
  split_ifs at h with hwake hdeadline
  · exact absurd h (hwoken _)
  · exact absurd h (hwoken _)
  · obtain ⟨wake, ends, deadline, next⟩ := pending
    have hlate := lt_of_not_isPast hdeadline
    cases wake with
    | none => exact hlate
    | some wake =>
        have hlt : b.now < wake := by simpa using hwake
        cases deadline with
        | none => simpa [dueTime, earlier] using hlt
        | some deadline =>
            have := hlate deadline rfl
            rintro time htime
            simp only [dueTime, earlier, Option.mem_def, Option.some.injEq] at htime
            omega

/-- Whoever still waits after everybody has been looked at is not due yet. -/
lemma due_of_foldl {ns : List Nat} (hn : n ∈ ns)
    (h : (ns.foldl wakeIfDue b).task? n = some ⟨.waiting pending, awaited⟩) :
    ∀ time ∈ dueTime pending, b.now < time := by
  induction ns generalizing b with
  | nil => cases hn
  | cons m rest ih =>
      have hfirst := Rouses.wakeIfDue b m
      rcases List.mem_cons.mp hn with rfl | hn
      · have hrest := Rouses.foldl Rouses.wakeIfDue rest (b.wakeIfDue n)
        exact due_of_wakeIfDue (hrest.task_of_waiting h)
      · have hdue := ih hn h
        rwa [hfirst.now] at hdue

/-- **The clock jumps to the next time at which something is due.**  Whoever is due then waits no
longer. -/
theorem jump_cases (h : b.jump? = some b') :
    b.nextTime? = some b'.now ∧ Rouses { b with now := b'.now } b' ∧ b'.monitor = b.monitor ∧
      ∀ n pending awaited, b'.task? n = some ⟨.waiting pending, awaited⟩ →
        ∀ due ∈ dueTime pending, b'.now < due := by
  obtain ⟨time, htime, rfl⟩ := Option.map_eq_some_iff.mp h
  have hrouses := Rouses.foldl Rouses.wakeIfDue (b.tasks.reverse.map (·.1)) { b with now := time }
  have hnow := hrouses.now
  refine ⟨htime.trans (congrArg some hnow.symm), ?_, monitor_foldl monitor_wakeIfDue _ _, ?_⟩
  · rw [hnow]
    exact hrouses
  · intro n pending awaited hwaits
    have hbefore := hrouses.task_of_waiting hwaits
    rw [hnow]
    exact due_of_foldl (by simpa [numbers] using mem_numbers_of_task? hbefore) hwaits

lemma nextTime_le {time : Nat} {p : Poller} (h : b.nextTime? = some time)
    (hpoller : b.poller = some p) : time ≤ p.ticker.due :=
  (List.min?_eq_some_iff.mp h).2 _ (List.mem_append_left _ (by simp [nextPoll, hpoller]))

/-! ## Sound benches -/

/-- The numbers of the tasks are different and have been given out, and nothing is overdue. -/
structure Sound (b : Bench) : Prop where
  nodup : b.numbers.Nodup
  below : ∀ n ∈ b.numbers, n < b.nextTask
  due : ∀ n pending awaited, b.task? n = some ⟨.waiting pending, awaited⟩ →
    ∀ time ∈ dueTime pending, b.now < time
  loop : ∀ p ∈ b.poller, p.Proper b

/-- A task has a number that was given out. -/
lemma Sound.lt_nextTask (hb : b.Sound) (h : b.task? n = some t) : n < b.nextTask :=
  hb.below n (mem_numbers_of_task? h)

/-- Time goes on once the loop waits. -/
lemma Sound.lt_jump (hb : b.Sound) (hturn : b.turn? = none) (h : b.jump? = some b') :
    b.now < b'.now := by
  obtain ⟨hnext, -⟩ := jump_cases h
  rcases List.mem_append.mp (List.min?_mem hnext) with hpoll | hdue
  · obtain ⟨p, hpoller, hdue⟩ := Option.map_eq_some_iff.mp (Option.mem_toList.mp hpoll)
    rw [← hdue]
    exact ((hb.loop p hpoller).rests hpoller hturn).1
  · obtain ⟨n, pending, awaited, htask, hdue⟩ := exists_of_mem_dueTimes hdue
    exact hb.due n pending awaited (task?_of_mem_tasks hb.nodup htask) _ hdue

namespace Sound

lemma start (controller : Controller) (device : Device) :
    (Bench.start controller device).Sound where
  nodup := .nil
  below n hn := by cases hn
  due n pending awaited h := by cases h
  loop p h := by cases h

/-- The loop has not moved. -/
lemma loop_of_same (hb : b.Sound) (hpoller : b'.poller = b.poller)
    (hcontroller : b'.controller = b.controller) (hnow : b'.now = b.now) :
    ∀ p ∈ b'.poller, p.Proper b' := by
  rw [hpoller]
  intro p hp
  have hproper := hb.loop p hp
  exact hproper.of_same hcontroller (hnow ▸ hproper.due)

lemma rouses (hb : b.Sound) (h : Rouses b b') : b'.Sound where
  nodup := by rw [h.numbers]; exact hb.nodup
  below := by rw [h.numbers, h.nextTask]; exact hb.below
  due n pending awaited hwaits := by
    rw [h.now]
    exact hb.due n pending awaited (h.task_of_waiting hwaits)
  loop := hb.loop_of_same h.poller h.controller h.now

/-- A task may wait for a time to come. -/
lemma setProgress (hb : b.Sound) (hdue : ∀ time ∈ dueTime pending, b.now < time) :
    (b.setProgress n (.waiting pending)).Sound where
  nodup := by rw [numbers_setProgress]; exact hb.nodup
  below := by rw [numbers_setProgress]; exact hb.below
  due m pending' awaited hwaits := by
    rw [task?_setProgress] at hwaits
    obtain ⟨⟨progress, awaited'⟩, htask, heq⟩ := Option.map_eq_some_iff.mp hwaits
    split_ifs at heq
    · cases heq
      exact hdue
    · cases heq
      exact hb.due m pending' awaited htask
  loop := hb.loop_of_same rfl rfl rfl

lemma forgetTask (hb : b.Sound) : (b.forgetTask n).Sound where
  nodup := hb.nodup.sublist numbers_forgetTask_sublist
  below m hm := hb.below m (numbers_forgetTask_sublist.subset hm)
  due m pending awaited hwaits := by
    rw [task?_forgetTask] at hwaits
    split_ifs at hwaits
    exact hb.due m pending awaited hwaits
  loop := hb.loop_of_same rfl rfl rfl

lemma finish {outcome : Outcome} (hb : b.Sound) : (b.finish n outcome).Sound := by
  unfold Bench.finish
  split
  · refine ⟨?_, ?_, ?_, hb.loop_of_same rfl rfl rfl⟩
    · rw [numbers_setProgress]
      exact hb.nodup
    · rw [numbers_setProgress]
      exact hb.below
    · intro m pending awaited hwaits
      rw [task?_setProgress] at hwaits
      obtain ⟨⟨progress, awaited'⟩, htask, heq⟩ := Option.map_eq_some_iff.mp hwaits
      split_ifs at heq
      · cases heq
      · cases heq
        exact hb.due m pending awaited htask
  · exact hb.forgetTask

/-- A new task gets a number that nobody has. -/
lemma spawn (hb : b.Sound) (c : Command) (awaited : Bool) : (b.spawn c awaited).Sound where
  nodup := by
    rw [numbers_spawn]
    exact .cons (fun hmem => Nat.lt_irrefl _ (hb.below _ hmem)) hb.nodup
  below n hn := by
    rw [numbers_spawn] at hn
    rcases List.mem_cons.mp hn with rfl | hn
    · exact Nat.lt_succ_self _
    · exact Nat.lt_succ_of_lt (hb.below n hn)
  due n pending awaited' hwaits := by
    by_cases hn : n = b.nextTask
    · subst hn
      rw [task?_spawn_self] at hwaits
      cases hwaits
    · rw [task?_spawn_of_ne hn] at hwaits
      exact hb.due n pending awaited' hwaits
  loop := hb.loop_of_same rfl rfl rfl

lemma resume (hb : b.Sound) (n : Nat) (talk : Talk Outcome) : (Bench.resume n talk b).Sound := by
  obtain ⟨b', hrouses, ⟨outcome, hends⟩ | ⟨pending, es, w, deadline, hwaits, -, hdue⟩⟩ :=
    resume_cases n talk b
  · rw [hends]
    exact (hb.rouses hrouses).finish
  · rw [hwaits]
    rw [← hrouses.now] at hdue
    exact (hb.rouses hrouses).setProgress hdue

/-- The loop has moved, properly. -/
lemma withPoller {poller : Option Poller} (hb : b.Sound)
    (hloop : ∀ p ∈ poller, p.Proper { b with poller }) : ({ b with poller } : Bench).Sound :=
  ⟨hb.nodup, hb.below, hb.due, hloop⟩

/-- **A loop that goes on keeps a bench sound.** -/
theorem turned (hb : b.Sound) (h : b.Turned b') : b'.Sound := by
  have hloop := h.proper hb.loop
  cases h with
  | begins poller stand value => exact hb.withPoller hloop
  | stops poller stand value => exact hb.withPoller hloop
  | ticks poller stand due => exact (hb.spawn .collect false).withPoller hloop
  | notices poller stand news => exact hb.withPoller hloop
  | closes poller stand abandoned => exact hb.withPoller hloop

lemma signal (hb : b.Sound) (s : Signal) : (b.signal s).Sound := by
  refine hb.withPoller fun p hp => ?_
  obtain ⟨q, hq, rfl⟩ := Option.map_eq_some_iff.mp hp
  exact ((hb.loop q hq).hear s).of_same rfl (hb.loop q hq).due

/-- The loop begins properly, if it begins at all. -/
lemma startPolling (hb : b.Sound) (c : Channel) : (b.startPolling c).Sound := by
  unfold Bench.startPolling
  split_ifs with hzero
  · exact hb
  · rw [follow_turn]
    split_ifs with hvalue
    · exact hb.withPoller fun _ => nofun
    · refine hb.withPoller ?_
      rintro _ ⟨⟩
      exact ⟨.inr rfl, fun _ _ => Bool.eq_false_iff.mpr hvalue, rfl, Nat.pos_of_ne_zero hzero,
        Nat.le_refl _⟩

/-- **A jump of the clock keeps a bench sound.** -/
theorem jump (hb : b.Sound) (h : b.jump? = some b') : b'.Sound := by
  obtain ⟨hnext, hrouses, -, hdue⟩ := jump_cases h
  have hpoller : b'.poller = b.poller := hrouses.poller
  refine ⟨?_, ?_, hdue, fun p hp => ?_⟩
  · rw [hrouses.numbers]
    exact hb.nodup
  · rw [hrouses.numbers, hrouses.nextTask]
    exact hb.below
  · rw [hpoller] at hp
    exact (hb.loop p hp).of_same hrouses.controller (nextTime_le hnext hp)

/-- **A task that goes on keeps a bench sound.** -/
theorem goOn (hb : b.Sound) (n : Nat) (rest : List Nat) : (b.goOn n rest).Sound := by
  have hrest : ({ b with ready := rest } : Bench).Sound :=
    ⟨hb.nodup, hb.below, hb.due, hb.loop_of_same rfl rfl rfl⟩
  unfold Bench.goOn
  dsimp only
  split
  · exact hrest.resume ..
  · exact hrest

lemma withoutTask (hb : b.Sound) : (b.withoutTask n).Sound :=
  ⟨hb.forgetTask.nodup, hb.forgetTask.below, hb.forgetTask.due, hb.loop_of_same rfl rfl rfl⟩

lemma cancel (hb : b.Sound) : (b.cancel n).Sound :=
  hb.withoutTask.rouses (Rouses.cancel b n)

end Sound

end Bench

end Session

end ChargeController
