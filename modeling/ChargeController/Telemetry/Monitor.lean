import ChargeController.Telemetry.Collection
import ChargeController.Telemetry.Exposition
import ChargeController.Telemetry.Metric

/-!
# Monitoring a device

The monitor runs one collection at a time and turns each into exactly one result: a snapshot that
is recorded, kept and published, or a failure that is counted and published.  A collection that is
asked for while another one runs is skipped and leaves no trace.

* `Monitor.note` — what the monitor notes about a collection.
* `Monitor.collecting` — the dialogue of one collection with the monitor.
-/

namespace ChargeController

/-- What became of a collection that was asked for. -/
inductive CollectionResult where
  /-- The snapshot was kept, and so many metrics were published. -/
  | published (count : Nat)
  | failed
  /-- Another collection was still running. -/
  | skipped
deriving DecidableEq

/-- What is known about a device, and which task is collecting. -/
structure Monitor where
  identity : DeviceIdentity
  /-- The number of the task whose collection is running. -/
  running : Option Nat
  latest : Option Snapshot
  recorded : Recorded
  /-- The published messages, newest first. -/
  published : List Message

namespace Monitor

/-- Nothing collected yet. -/
def start (identity : DeviceIdentity) : Monitor :=
  ⟨identity, none, none, Recorded.nothing, []⟩

/-- A task begins a collection, unless one is running. -/
def begin? (m : Monitor) (task : Nat) : Option Monitor :=
  if m.running.isSome then none else some { m with running := some task }

/-- A task has ended; its collection, if it was running, runs no longer. -/
def drop (m : Monitor) (task : Nat) : Monitor :=
  if m.running = some task then { m with running := none } else m

/-- What is noted about a collection, one thing at a time. -/
inductive Notice where
  /-- The counter of snapshots and the gauges. -/
  | record (s : Snapshot)
  /-- The latest snapshot. -/
  | retain (s : Snapshot)
  | publish (m : Metric)
  | failure
deriving DecidableEq

/-- The monitor with something noted. -/
def note (m : Monitor) : Notice → Monitor
  | .record s => { m with recorded := m.recorded.record s }
  | .retain s => { m with latest := some s }
  | .publish metric => { m with published := m.identity.message metric :: m.published }
  | .failure => { m with recorded := m.recorded.countFailure }

/-! ## The dialogue -/

/-- What a monitored collection asks for. -/
inductive Ask where
  /-- Begins; refused while another collection runs. -/
  | begin
  /-- A snapshot, which may not take longer than the deadline. -/
  | gather
  | note (n : Notice)
  /-- Seconds since 1970. -/
  | unixTime
  | finish
deriving DecidableEq

/-- The replies; a collection that was cut off has no result. -/
def Reply : Ask → Type
  | .begin => Bool
  | .gather => Option (Except CollectionFault Snapshot)
  | .note _ => Unit
  | .unixTime => Int
  | .finish => Unit

/-- A dialogue with the monitor. -/
abbrev Talk := Dialogue Ask Reply

/-- Asks one question. -/
def ask (q : Ask) : Talk (Reply q) :=
  Dialogue.question q

/-- Publishes metrics, in order. -/
def publish : List Metric → Talk Unit
  | [] => return ()
  | metric :: rest => do
      ask (.note (.publish metric))
      publish rest

/-- A collection has a snapshot. -/
def succeed (s : Snapshot) : Talk CollectionResult := do
  ask (.note (.record s))
  ask (.note (.retain s))
  publish s.metrics
  ask .finish
  return .published s.metrics.length

/-- A collection has failed. -/
def fail : Talk CollectionResult := do
  ask (.note .failure)
  let unixTime : Int ← ask .unixTime
  publish [Metric.ofFailure unixTime]
  ask .finish
  return .failed

/-- One collection: skipped while another one runs, otherwise brought to its result. -/
def collecting : Talk CollectionResult := do
  let begun : Bool ← ask .begin
  if begun then
    match ← ask .gather with
    | some (.ok s) => succeed s
    | some (.error _) => fail
    | none => fail
  else
    return .skipped

end Monitor

end ChargeController
