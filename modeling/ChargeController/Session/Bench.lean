import ChargeController.Bus.Link
import ChargeController.Session.Command
import ChargeController.Session.Poller

/-!
# The bench

A bench holds a device, the link to it, a cache, a monitor, any number of tasks and the loop that
collects, in a time of its own.  The clock stands still while a task or the loop can go on, and
otherwise jumps to the next moment that one of them waits for.  So nothing on a bench depends on how
fast it runs.

* `Bench.reply` — the questions that take no time.
* `Bench.resume` — a task goes on until it waits or ends.
* `Bench.follow` — the loop goes on until it waits or ends.
* `Bench.jump?` — the clock moves.
* `Bench.runUntil` — a run, up to a goal and within a number of rounds.
-/

namespace ChargeController.Session

/-- A task that waits: until when, whether closing the client ends the wait, its deadline, and what
the task does then. -/
structure Pending where
  wake : Option Nat
  endsOnClose : Bool
  deadline : Option Nat
  next : Woken → Talk Outcome

/-- How far a task has come. -/
inductive Progress where
  | ready (talk : Talk Outcome)
  | waiting (pending : Pending)
  | ended (outcome : Outcome)

/-- A task, and whether somebody will ask for its outcome. -/
structure Task where
  progress : Progress
  awaited : Bool

/-- Everything on a bench. -/
structure Bench where
  controller : Controller
  /-- Milliseconds since the start. -/
  now : Nat
  device : Device
  link : Link
  cache : Cache
  monitor : Monitor
  /-- The tasks by number, newest first. -/
  tasks : List (Nat × Task)
  /-- The numbers of the tasks that can go on, in the order in which they will. -/
  ready : List Nat
  nextTask : Nat
  /-- The loop in which the controller collects on its own, while there is one. -/
  poller : Option Poller

namespace Bench

/-- A bench at the start. -/
def start (controller : Controller) (device : Device) : Bench where
  controller
  now := 0
  device
  link := .free
  cache := .empty
  monitor := .start controller.identity
  tasks := []
  ready := []
  nextTask := 0
  poller := none

/-! ## Tasks -/

/-- The task with a number. -/
def task? (b : Bench) (n : Nat) : Option Task :=
  b.tasks.lookup n

/-- The same bench with a task's progress changed. -/
def setProgress (b : Bench) (n : Nat) (progress : Progress) : Bench :=
  { b with tasks := b.tasks.map fun (m, t) => (m, if m = n then { t with progress } else t) }

/-- The same bench without a task. -/
def forgetTask (b : Bench) (n : Nat) : Bench :=
  { b with tasks := b.tasks.filter (·.1 != n) }

/-- Adds the task of a command, which can go on. -/
def spawn (b : Bench) (command : Command) (awaited : Bool) : Bench :=
  { b with
    tasks := (b.nextTask, ⟨.ready (command.talk b.controller), awaited⟩) :: b.tasks
    ready := b.ready ++ [b.nextTask]
    nextTask := b.nextTask + 1 }

/-- The wait of a task is over. -/
def wake (b : Bench) (n : Nat) (woken : Woken) : Bench :=
  match b.task? n with
  | some ⟨.waiting pending, _⟩ =>
      let b := b.setProgress n (.ready (pending.next woken))
      { b with ready := b.ready ++ [n] }
  | _ => b

/-- The outcome of a task that has ended. -/
def outcome? (b : Bench) (n : Nat) : Option Outcome :=
  match b.task? n with
  | some ⟨.ended outcome, _⟩ => some outcome
  | _ => none

/-- A task ends; its outcome is kept only if somebody will ask for it. -/
def finish (b : Bench) (n : Nat) (outcome : Outcome) : Bench :=
  match b.task? n with
  | some ⟨_, true⟩ => b.setProgress n (.ended outcome)
  | _ => b.forgetTask n

/-! ## Questions that take no time -/

/-- A task leaves the link, and the next one holds it. -/
def leave (b : Bench) (n : Nat) : Bench :=
  let link := b.link.leave n
  let left := { b with link }
  match link.holder with
  | some m => if b.link.holder = some m then left else left.wake m .inTime
  | none => left

/-- The tasks whose wait ends when the client is closed. -/
def endingOnClose (b : Bench) : List Nat :=
  b.tasks.reverse.filterMap fun
    | (n, ⟨.waiting pending, _⟩) => if pending.endsOnClose then some n else none
    | _ => none

/-- The client is closed. -/
def close (b : Bench) : Bench :=
  b.endingOnClose.foldl (fun b n => b.wake n .closed) { b with link := b.link.close }

/-- On a bench, 1970 never ends. -/
def unixTime : Int := 0

/-- The answer to a question that takes no time, and the bench after it. -/
def reply (b : Bench) (self : Nat) : (a : Act) → a.Reply × Bench
  | .answer request =>
      let (answer, device) := b.device.respond request
      (answer, { b with device })
  | .latency => (b.device.delay, b)
  | .leave => ((), b.leave self)
  | .isClosed => (b.link.closed, b)
  | .close => ((), b.close)
  | .lookUp => (b.cache.lookUp b.now b.controller.ttl, b)
  | .keep generation config =>
      ((), { b with cache := b.cache.keep generation config b.now })
  | .forget => ((), { b with cache := b.cache.forget })
  | .countWriteFailure =>
      let recorded := b.monitor.recorded.countWriteFailure
      ((), { b with monitor := { b.monitor with recorded } })
  | .begin =>
      match b.monitor.begin? self with
      | some monitor => (true, { b with monitor })
      | none => (false, b)
  | .note n => ((), { b with monitor := b.monitor.note n })
  | .finish => ((), { b with monitor := b.monitor.drop self })
  | .device => (b.device, b)
  | .script change => ((), { b with device := change b.device })
  | .monitor => (b.monitor, b)
  | .now => (b.now, b)
  | .unixTime => (unixTime, b)

/-! ## Waiting -/

/-- Whether a deadline has come. -/
def isPast (b : Bench) (deadline : Option Nat) : Bool :=
  deadline.any (· ≤ b.now)

/-- Begins a wait for the clock: over at once, past its deadline at once, or pending. -/
def beginRest (b : Bench) (milliseconds : Nat) (deadline : Option Nat) : Woken ⊕ Option Nat :=
  if milliseconds = 0 then .inl .inTime
  else if b.isPast deadline then .inl .expired
  else .inr (some (b.now + milliseconds))

/-- Begins a wait: why it is over already, or the moment that ends it if there is one. -/
def beginWait (b : Bench) (self : Nat) (deadline : Option Nat) :
    Wait → (Woken ⊕ Option Nat) × Bench
  | .sleep milliseconds => (b.beginRest milliseconds deadline, b)
  | .pause milliseconds =>
      if b.link.closed then (.inl .closed, b) else (b.beginRest milliseconds deadline, b)
  | .link =>
      let asked := { b with link := b.link.acquire self }
      if b.link.holder.isNone then (.inl .inTime, asked)
      else if b.isPast deadline then (.inl .expired, asked)
      else (.inr none, asked)

/-- A task goes on until it waits or ends. -/
def resume (self : Nat) : Talk Outcome → Bench → Bench
  | .done outcome, b => b.finish self outcome
  | .ask (.act a) next, b =>
      let (answer, b) := b.reply self a
      resume self (next answer) b
  | .ask (.wait w deadline) next, b =>
      match b.beginWait self deadline w with
      | (.inl woken, b) => resume self (next woken) b
      | (.inr wake, b) =>
          b.setProgress self (.waiting ⟨wake, w.endsOnClose, deadline, next⟩)

/-! ## The loop -/

/-- The loop goes on with a turn until it waits or ends; another turn is left for later. -/
def follow (p : Poller) : Poller.Talk Bool → Bench → Bench
  | .done true, b => { b with poller := some { p with stand := .going Poller.turn } }
  | .done false, b => { b with poller := none }
  | .ask .borrow next, b => follow p (next p.channel.value) b
  | .ask .select next, b => { b with poller := some { p with stand := .selecting next } }
  | .ask .collect next, b => follow p (next ()) (b.spawn .collect false)

/-- The loop goes on, if it can. -/
def turn? (b : Bench) : Option Bench := do
  let p ← b.poller
  match p.stand with
  | .going talk => return follow p talk b
  | .selecting next =>
      let e ← p.pick? b.now
      return follow (p.take b.now e) (next e) b

/-- The loop begins, with a channel to listen to; a timer needs a period. -/
def startPolling (b : Bench) (channel : Channel) : Bench :=
  if b.controller.pollInterval = 0 then b
  else follow (.start b.controller.pollInterval b.now channel) Poller.turn b

/-- Something is done on the other end of the channel of the loop. -/
def signal (b : Bench) (s : Signal) : Bench :=
  { b with poller := b.poller.map fun p => { p with channel := p.channel.hear s } }

/-! ## Time -/

/-- The moment at which a wait is over at the latest. -/
def dueTime (p : Pending) : Option Nat :=
  match p.wake with
  | none => p.deadline
  | some wake => some (earlier wake p.deadline)

/-- The moments that waiting tasks wait for. -/
def dueTimes (b : Bench) : List Nat :=
  b.tasks.filterMap fun
    | (_, ⟨.waiting pending, _⟩) => dueTime pending
    | _ => none

/-- When the timer of the loop is due. -/
def nextPoll (b : Bench) : Option Nat :=
  b.poller.map (·.ticker.due)

/-- The next moment at which something happens by itself. -/
def nextTime? (b : Bench) : Option Nat :=
  (b.nextPoll.toList ++ b.dueTimes).min?

/-- Ends the wait of a task if its time has come; a wait that is over just at its deadline is in
time. -/
def wakeIfDue (b : Bench) (n : Nat) : Bench :=
  match b.task? n with
  | some ⟨.waiting pending, _⟩ =>
      if pending.wake.any (· ≤ b.now) then b.wake n .inTime
      else if b.isPast pending.deadline then b.wake n .expired
      else b
  | _ => b

/-- The clock jumps to the next moment at which something happens, and whoever has waited for it can
go on. -/
def jump? (b : Bench) : Option Bench :=
  b.nextTime?.map fun time => (b.tasks.reverse.map (·.1)).foldl wakeIfDue { b with now := time }

/-- The first task that can go on does so. -/
def goOn (b : Bench) (n : Nat) (rest : List Nat) : Bench :=
  let b := { b with ready := rest }
  match b.task? n with
  | some ⟨.ready talk, _⟩ => resume n talk b
  | _ => b

/-- Runs until nobody can go on and the goal is reached.  In every round a task goes on, or the loop
does, or the clock jumps; if the rounds do not suffice, or nothing more can happen, the run ends
there. -/
def runUntil (goal : Bench → Bool) : Nat → Bench → Bench
  | 0, b => b
  | rounds + 1, b =>
      match b.ready with
      | n :: rest => runUntil goal rounds (b.goOn n rest)
      | [] =>
          match b.turn? with
          | some b => runUntil goal rounds b
          | none =>
              if goal b then b
              else
                match b.jump? with
                | some b => runUntil goal rounds b
                | none => b

/-- Runs until every task, and the loop, waits or has ended. -/
def settle (rounds : Nat) (b : Bench) : Bench :=
  runUntil (fun _ => true) rounds b

/-- Runs until a task has ended. -/
def await (rounds : Nat) (n : Nat) (b : Bench) : Bench :=
  runUntil (fun b => (b.outcome? n).isSome) rounds b

/-! ## Changing what runs -/

/-- Drops a task: what it holds is given up, and a collection of its own ends. -/
def cancel (b : Bench) (n : Nat) : Bench :=
  let b := { b.forgetTask n with
    ready := b.ready.filter (· != n)
    monitor := b.monitor.drop n }
  b.leave n

end Bench

end ChargeController.Session
