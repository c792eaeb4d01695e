import ChargeController.Session.Bench

/-!
# Scripts

A script drives a bench step by step.  A step is a command that is waited for, or it starts, joins
or drops a task, or it turns the collecting of the controller on and off.  After each step every
task has gone as far as it can, and what has happened since the step before is reported.

* `Step.run` — one step.
* `Script.run` — all of them, with their reports.
-/

namespace ChargeController.Session

/-- One step of a script. -/
inductive Step where
  /-- A command, waited for. -/
  | command (command : Command)
  /-- A command as a task under a name; a task that had the name before goes on without it. -/
  | spawn (name : String) (command : Command)
  /-- Waits for a task. -/
  | join (name : String)
  /-- Drops a task. -/
  | abort (name : String)
  /-- Begins to collect, unless that has been stopped in advance. -/
  | startPolling (stopped : Bool)
  /-- Does something on the channel that may stop the collecting. -/
  | signalPolling (signal : Signal)
  | isPollingOver

/-- What a step finds. -/
inductive Finding where
  | outcome (outcome : Outcome)
  | aborted
  /-- The task had ended before it could be dropped. -/
  | finished (outcome : Outcome)
  | isOver (value : Bool)
  /-- There is no task of that name, or it does not end. -/
  | nothing

/-- A bench and the names of its tasks. -/
structure Stage where
  bench : Bench
  names : List (String × Nat)

/-- What is reported after a step. -/
structure Report where
  finding : Finding
  /-- The requests that the device has received since the last report. -/
  received : List Request
  /-- The messages published since the last report. -/
  published : List Message
  failures : Nat
  writeFailures : Nat
  snapshots : Nat
  now : Nat

namespace Stage

/-- The same stage with another bench. -/
def withBench (s : Stage) (bench : Bench) : Stage :=
  { s with bench }

/-- The same stage without a name and its task. -/
def dropName (s : Stage) (name : String) (n : Nat) : Stage :=
  ⟨s.bench.forgetTask n, s.names.filter (·.1 != name)⟩

/-- Waits for a task, which then is forgotten. -/
def await (rounds n : Nat) (b : Bench) : Option Outcome × Bench :=
  let b := b.await rounds n
  (b.outcome? n, b.forgetTask n)

/-- A step that only changes the bench, which then settles. -/
def adjust (rounds : Nat) (s : Stage) (change : Bench → Bench) : Finding × Stage :=
  (.outcome .done, s.withBench ((change s.bench).settle rounds))

end Stage

/-- What an outcome that may be missing means for a step. -/
def Finding.ofOutcome : Option Outcome → Finding
  | some ended => .outcome ended
  | none => .nothing

/-- Runs one step, each of its waits within the given number of rounds. -/
def Step.run (rounds : Nat) (s : Stage) : Step → Finding × Stage
  | .command c =>
      let n := s.bench.nextTask
      let (ended, bench) := Stage.await rounds n (s.bench.spawn c true)
      (.ofOutcome ended, s.withBench bench)
  | .spawn name c =>
      let names := (name, s.bench.nextTask) :: s.names.filter (·.1 != name)
      ({ s with names }).adjust rounds (·.spawn c true)
  | .join name =>
      match s.names.lookup name with
      | some n =>
          let (ended, bench) := Stage.await rounds n s.bench
          (.ofOutcome ended, (s.withBench bench).dropName name n)
      | none => (.nothing, s)
  | .abort name =>
      match s.names.lookup name with
      | some n =>
          match s.bench.outcome? n with
          | some ended => (.finished ended, s.dropName name n)
          | none =>
              let bench := (s.bench.cancel n).settle rounds
              (.aborted, (s.withBench bench).dropName name n)
      | none => (.nothing, s)
  | .startPolling stopped => s.adjust rounds (·.startPolling (.opened stopped))
  | .signalPolling signal => s.adjust rounds (·.signal signal)
  | .isPollingOver => (.isOver s.bench.poller.isNone, s)

/-- The elements in front of the last `old`. -/
def newest {α : Type} (old : Nat) (xs : List α) : List α :=
  xs.take (xs.length - old)

/-- The report on a step that led from one bench to another. -/
def Report.ofStep (finding : Finding) (before after : Bench) : Report where
  finding
  received := (newest before.device.received.length after.device.received).reverse
  published := (newest before.monitor.published.length after.monitor.published).reverse
  failures := after.monitor.recorded.failures
  writeFailures := after.monitor.recorded.writeFailures
  snapshots := after.monitor.recorded.snapshots
  now := after.now

/-- Runs the steps of a script, one after the other. -/
def Script.run (rounds : Nat) : Stage → List Step → List Report
  | _, [] => []
  | s, step :: rest =>
      let (finding, next) := step.run rounds s
      Report.ofStep finding s.bench next.bench :: Script.run rounds next rest

end ChargeController.Session
