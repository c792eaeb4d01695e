import ChargeController.Proofs.Session.Round
import ChargeController.Session.Script

/-!
# What happens on a bench

A bench keeps no record, so its history is written beside it: when a collection was asked for on the
controller's own account, what each task asked and was told, which tasks were dropped, what was done
on the channel that the loop listens to, and when the loop has come to its end.  Between the rounds
of a bench anybody may add tasks, drop tasks that have been added, or use that channel; and the loop
may go on in any way that it may, between any two tasks.

* `Bench.toldTo`, `Bench.looped` — what happens when a task goes on, and when the loop does.
* `Move`, `Run` — the moves on a bench, in any order, and what happens meanwhile.
* **`Bench.run_historyUntil`** — a run of rounds is such a run.
* **`Step.exists_history`** — and so is every step of a script.
-/

namespace ChargeController

namespace Session

open Dialogue

/-! ## Histories -/

/-- Something that happens on a bench. -/
inductive Happening where
  /-- A collection is asked for on the controller's own account, by a task with this number. -/
  | polled (n : Nat)
  /-- A task has asked something that takes no time, and is told. -/
  | told (n : Nat) (e : Exchange Act Act.Reply)
  | dropped (n : Nat)
  /-- Something is done on the channel that the loop listens to. -/
  | signal (s : Signal)
  /-- The loop that asks for collections has come to its end. -/
  | ended

/-- What has happened, and when; the oldest comes first. -/
abbrev History := List (Nat × Happening)

/-- The task that something has to do with. -/
def Happening.task? : Happening → Option Nat
  | .polled n => some n
  | .told n _ => some n
  | .dropped n => some n
  | .signal _ => none
  | .ended => none

namespace Bench

/-- What a task asks and is told until it waits or ends. -/
def heard (self : Nat) : Talk Outcome → Bench → List (Exchange Act Act.Reply)
  | .done _, _ => []
  | .ask (.act a) next, b =>
      let (answer, b) := b.reply self a
      ⟨a, answer⟩ :: heard self (next answer) b
  | .ask (.wait w deadline) next, b =>
      match b.beginWait self deadline w with
      | (.inl woken, b) => heard self (next woken) b
      | (.inr _, _) => []

/-- What happens when a task goes on that is the first of those that can. -/
def toldTo (b : Bench) (n : Nat) (rest : List Nat) : History :=
  match b.task? n with
  | some ⟨.ready talk, _⟩ =>
      (heard n talk { b with ready := rest }).map fun e => (b.now, .told n e)
  | _ => []

/-- The tasks that have been added on the controller's own account. -/
def added (b b' : Bench) : History :=
  (List.range' b.nextTask (b'.nextTask - b.nextTask)).map fun n => (b'.now, .polled n)

/-- What happens when the loop goes on: it may ask for a collection, or come to its end. -/
def looped (b b' : Bench) : History :=
  added b b' ++ if b'.poller.isNone then [(b'.now, .ended)] else []

/-- Whether a task is not one of the controller's own. -/
def Named (b : Bench) (n : Nat) : Prop :=
  n < b.nextTask ∧ ∀ t, b.task? n = some t → t.awaited = true

/-- What happens in a run of rounds. -/
def historyUntil (goal : Bench → Bool) : Nat → Bench → History
  | 0, _ => []
  | rounds + 1, b =>
      match b.ready with
      | n :: rest => b.toldTo n rest ++ historyUntil goal rounds (b.goOn n rest)
      | [] =>
          match b.turn? with
          | some b' => looped b b' ++ historyUntil goal rounds b'
          | none =>
              if goal b then []
              else
                match b.jump? with
                | some b' => historyUntil goal rounds b'
                | none => []

end Bench

open Bench

/-! ## Runs -/

/-- One move on a bench, and what happens. -/
inductive Move : Bench → History → Bench → Prop
  | goOn {b n rest} (ready : b.ready = n :: rest) : Move b (b.toldTo n rest) (b.goOn n rest)
  | turn {b b'} (turns : b.Turns b') : Move b (looped b b') b'
  | jump {b b'} (ready : b.ready = []) (turn : b.turn? = none) (jumps : b.jump? = some b') :
      Move b [] b'
  | spawn {b} (c : Command) : Move b [] (b.spawn c true)
  | forget {b n} (named : b.Named n) : Move b [] (b.forgetTask n)
  | cancel {b n} (named : b.Named n) : Move b [(b.now, .dropped n)] (b.cancel n)
  | signal {b} (s : Signal) : Move b [(b.now, .signal s)] (b.signal s)

/-- Any number of moves, and what happens in all of them. -/
inductive Run (b : Bench) : History → Bench → Prop
  | start : Run b [] b
  | next {h h' b' b''} (before : Run b h b') (move : Move b' h' b'') : Run b (h ++ h') b''

variable {b b' b'' : Bench} {h h' : History} {n : Nat} {rounds : Nat} {goal : Bench → Bool}

lemma Run.single (move : Move b h b') : Run b h b' :=
  .next .start move

/-- A run can go on from where another one ended. -/
lemma Run.trans (before : Run b h b') (run : Run b' h' b'') : Run b (h ++ h') b'' := by
  induction run with
  | start => simpa using before
  | next _ move ih =>
      rw [← List.append_assoc]
      exact ih.next move

namespace Bench

/-- **A run of rounds is a run.** -/
theorem run_historyUntil (goal : Bench → Bool) (rounds : Nat) (b : Bench) :
    Run b (historyUntil goal rounds b) (runUntil goal rounds b) := by
  induction rounds generalizing b with
  | zero => exact .start
  | succ rounds ih =>
      cases hready : b.ready with
      | cons n rest =>
          simp only [historyUntil, runUntil, hready]
          exact (Run.single (.goOn hready)).trans (ih _)
      | nil =>
          cases hturn : b.turn? with
          | some b' =>
              simp only [historyUntil, runUntil, hready, hturn]
              exact (Run.single (.turn (turns_of_turn? hturn))).trans (ih b')
          | none =>
              simp only [historyUntil, runUntil, hready, hturn]
              split_ifs with hgoal
              · exact .start
              · cases hjump : b.jump? with
                | none => exact .start
                | some b' => exact (Run.single (.jump hready hturn hjump)).trans (ih b')

/-! ## Tasks of others -/

/-- Every task is as it was before, or further, and nobody has begun or ceased to ask for it. -/
def Stems (b b' : Bench) : Prop :=
  ∀ n t', b'.task? n = some t' → ∃ t, b.task? n = some t ∧ t.awaited = t'.awaited

lemma Stems.trans (h : Stems b b') (h' : Stems b' b'') : Stems b b'' := by
  intro n t'' ht''
  obtain ⟨t', ht', hsame'⟩ := h' n t'' ht''
  obtain ⟨t, ht, hsame⟩ := h n t' ht'
  exact ⟨t, ht, hsame.trans hsame'⟩

/-- Rousing tasks changes nothing about who asked for them. -/
lemma Rouses.stems (h : Rouses b b') : Stems b b' := by
  intro n t' ht'
  rcases h.task n with hsame | ⟨pending, awaited, woken, hwaits, hready⟩
  · exact ⟨t', hsame ▸ ht', rfl⟩
  · cases hready.symm.trans ht'
    exact ⟨_, hwaits, rfl⟩

lemma stems_setProgress {progress : Progress} : Stems b (b.setProgress n progress) := by
  intro m t' ht'
  rw [task?_setProgress] at ht'
  obtain ⟨t, ht, rfl⟩ := Option.map_eq_some_iff.mp ht'
  refine ⟨t, ht, ?_⟩
  split_ifs
  · rfl
  · rfl

lemma stems_forgetTask : Stems b (b.forgetTask n) := by
  intro m t' ht'
  rw [task?_forgetTask] at ht'
  split_ifs at ht'
  exact ⟨t', ht', rfl⟩

/-- A task that goes on begins no other one. -/
lemma stems_goOn {rest : List Nat} : Stems b (b.goOn n rest) := by
  by_cases hready : ∃ talk awaited, b.task? n = some ⟨.ready talk, awaited⟩
  · obtain ⟨talk, awaited, htask⟩ := hready
    rw [goOn_of_ready htask]
    obtain ⟨b₁, hrouses, ⟨outcome, hends⟩ | ⟨pending, -, -, -, hwaits, -, -⟩⟩ :=
      resume_cases n talk { b with ready := rest }
    · rw [hends, finish]
      refine Stems.trans (b := b) hrouses.stems ?_
      split
      · exact stems_setProgress
      · exact stems_forgetTask
    · rw [hwaits]
      exact Stems.trans (b := b) hrouses.stems stems_setProgress
  · rw [goOn_of_not_ready (by simpa using hready)]
    exact fun m t ht => ⟨t, ht, rfl⟩

lemma stems_cancel : Stems b (b.cancel n) := by
  refine Stems.trans ?_ (Rouses.cancel b n).stems
  exact stems_forgetTask (n := n)

/-- A task that has been added is no task of the controller's own. -/
lemma Named.of_stems (hn : b.Named n) (hnext : b'.nextTask = b.nextTask) (h : Stems b b') :
    b'.Named n := by
  refine ⟨hnext ▸ hn.1, fun t' ht' => ?_⟩
  obtain ⟨t, ht, hsame⟩ := h n t' ht'
  rw [← hsame]
  exact hn.2 t ht

/-- Another task takes a number of its own. -/
lemma Named.spawn {c : Command} {awaited : Bool} (hn : b.Named n) :
    (b.spawn c awaited).Named n := by
  refine ⟨Nat.lt_succ_of_lt hn.1, fun t ht => ?_⟩
  rw [task?_spawn_of_ne (Nat.ne_of_lt hn.1)] at ht
  exact hn.2 t ht

/-- Nor does the loop take over the task of somebody else, whatever it does. -/
lemma Named.follow {p : Poller} {talk : Poller.Talk Bool} (hn : b.Named n) :
    (follow p talk b).Named n := by
  induction talk generalizing b with
  | done again =>
      cases again with
      | true => exact hn
      | false => exact hn
  | ask q next ih =>
      cases q with
      | borrow => exact ih _ hn
      | select => exact hn
      | collect => exact ih _ hn.spawn

lemma Named.startPolling {c : Channel} (hn : b.Named n) : (b.startPolling c).Named n := by
  unfold Bench.startPolling
  split_ifs
  · exact hn
  · exact hn.follow

lemma Named.turns (hn : b.Named n) (h : b.Turns b') : b'.Named n := by
  cases h with
  | goes poller stand => exact hn.follow
  | picks poller stand offered => exact hn.follow

lemma named_spawn {c : Command} : (b.spawn c true).Named b.nextTask := by
  refine ⟨Nat.lt_succ_self _, fun t ht => ?_⟩
  rw [task?_spawn_self] at ht
  cases ht
  rfl

lemma nextTask_cancel : (b.cancel n).nextTask = b.nextTask :=
  (Rouses.cancel b n).nextTask

end Bench

/-- A move makes no task of somebody else the controller's own. -/
lemma Move.named (move : Move b h b') (hn : b.Named n) : b'.Named n := by
  cases move with
  | goOn ready => exact hn.of_stems (goOn_advances ..).nextTask stems_goOn
  | turn turns => exact hn.turns turns
  | jump ready turn jumps =>
      obtain ⟨-, hrouses, -⟩ := jump_cases jumps
      exact hn.of_stems hrouses.nextTask hrouses.stems
  | spawn c => exact hn.spawn
  | forget named => exact hn.of_stems rfl stems_forgetTask
  | cancel named => exact hn.of_stems nextTask_cancel stems_cancel
  | signal s => exact hn

lemma Run.named (run : Run b h b') (hn : b.Named n) : b'.Named n := by
  induction run with
  | start => exact hn
  | next _ move ih => exact move.named ih

/-! ## Scripts -/

/-- The names of a stage are names of tasks that have been added. -/
def Stage.Named (s : Stage) : Prop :=
  ∀ p ∈ s.names, s.bench.Named p.2

section

variable {s : Stage} {name : String}

lemma Stage.Named.lookup (hs : s.Named) (hname : s.names.lookup name = some n) :
    s.bench.Named n := by
  obtain ⟨earlier, later, hnames, -⟩ := List.lookup_eq_some_iff.mp hname
  exact hs (name, n) (by simp [hnames])

lemma Stage.Named.run (hs : s.Named) (run : Run s.bench h b) : (s.withBench b).Named :=
  fun p hp => run.named (hs p hp)

/-- A name that is given up leaves the other names as they were. -/
lemma Stage.Named.dropName (hs : s.Named) : (s.dropName name n).Named := by
  intro p hp
  exact (hs p (List.mem_of_mem_filter hp)).of_stems rfl stems_forgetTask

/-- **Every step of a script is a run**, from where it has turned the collecting on. -/
theorem Step.exists_history (rounds : Nat) (hs : s.Named) (step : Step) :
    let begun := match step with
      | .startPolling stopped => s.bench.startPolling (.opened stopped)
      | _ => s.bench
    let s' := (step.run rounds s).2
    (∃ h, Run begun h s'.bench) ∧ s'.Named := by
  cases step with
  | command c =>
      have hawaits := run_historyUntil (fun b => (b.outcome? s.bench.nextTask).isSome) rounds
        (s.bench.spawn c true)
      have hnamed := hawaits.named named_spawn
      have run := ((Run.single (.spawn c)).trans hawaits).next (.forget hnamed)
      exact ⟨⟨_, run⟩, hs.run run⟩
  | spawn name c =>
      have hsettles := run_historyUntil (fun _ => true) rounds (s.bench.spawn c true)
      have run := (Run.single (.spawn c)).trans hsettles
      refine ⟨⟨_, run⟩, ?_⟩
      intro p hp
      rcases List.mem_cons.mp hp with rfl | hp
      · exact hsettles.named named_spawn
      · exact run.named (hs p (List.mem_of_mem_filter hp))
  | join name =>
      cases hname : s.names.lookup name with
      | none =>
          simp only [Step.run, hname]
          exact ⟨⟨_, .start⟩, hs⟩
      | some n =>
          have hawaits := run_historyUntil (fun b => (b.outcome? n).isSome) rounds s.bench
          have hnamed := hawaits.named (hs.lookup hname)
          have hforgets := hawaits.next (.forget hnamed)
          have hagain := hforgets.named (hs.lookup hname)
          simp only [Step.run, hname]
          exact ⟨⟨_, hforgets.next (.forget hagain)⟩, (hs.run hforgets).dropName⟩
  | abort name =>
      cases hname : s.names.lookup name with
      | none =>
          simp only [Step.run, hname]
          exact ⟨⟨_, .start⟩, hs⟩
      | some n =>
          have hnamed := hs.lookup hname
          simp only [Step.run, hname]
          split
          · exact ⟨⟨_, .single (.forget hnamed)⟩, hs.dropName⟩
          · have hsettles := run_historyUntil (fun _ => true) rounds (s.bench.cancel n)
            have run := (Run.single (.cancel hnamed)).trans hsettles
            exact ⟨⟨_, run.next (.forget (run.named hnamed))⟩, (hs.run run).dropName⟩
  | startPolling stopped =>
      have run := run_historyUntil (fun _ => true) rounds (s.bench.startPolling (.opened stopped))
      exact ⟨⟨_, run⟩, fun p hp => run.named (hs p hp).startPolling⟩
  | signalPolling signal =>
      have run := (Run.single (.signal (b := s.bench) signal)).trans
        (run_historyUntil (fun _ => true) rounds _)
      exact ⟨⟨_, run⟩, hs.run run⟩
  | isPollingOver => exact ⟨⟨_, .start⟩, hs⟩

end

end Session

end ChargeController
