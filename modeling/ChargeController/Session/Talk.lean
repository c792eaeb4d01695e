import ChargeController.Bus.Client
import ChargeController.Bus.Device
import ChargeController.Settings.Procedure
import ChargeController.Telemetry.Monitor

/-!
# Everything that a task may ask for

Requests about settings, collections and calls of the client each have their own questions.  On a
bench they all become dialogues of one kind, whose questions either take no time or wait: for the
clock, for the link, or for the clock unless the client is closed first.

* `transport` — a request, through a client or straight to the device.
* `within` — a dialogue with a deadline, which cuts off the first wait that outlasts it.
* `collecting` — a monitored collection.
-/

namespace ChargeController.Session

/-- A question that takes no time. -/
inductive Act where
  /-- The device answers a request. -/
  | answer (request : Request)
  /-- How long the device takes for an answer. -/
  | latency
  /-- Gives up the link, or the place in the queue for it. -/
  | leave
  | isClosed
  | close
  | lookUp
  | keep (generation : UInt64) (config : DeviceConfig)
  | forget
  | countWriteFailure
  /-- Begins a monitored collection; refused while another one runs. -/
  | begin
  | note (n : Monitor.Notice)
  /-- Ends a monitored collection. -/
  | finish
  /-- A look at the device itself. -/
  | device
  /-- Changes the script of the device. -/
  | script (change : Device → Device)
  | monitor
  | now
  | unixTime

/-- The replies to questions that take no time. -/
def Act.Reply : Act → Type
  | .answer _ => Answer
  | .latency => Nat
  | .leave => Unit
  | .isClosed => Bool
  | .close => Unit
  | .lookUp => Recall
  | .keep _ _ => Unit
  | .forget => Unit
  | .countWriteFailure => Unit
  | .begin => Bool
  | .note _ => Unit
  | .finish => Unit
  | .device => Device
  | .script _ => Unit
  | .monitor => Monitor
  | .now => Nat
  | .unixTime => Int

/-- What a task waits for. -/
inductive Wait where
  /-- Until so many milliseconds have passed. -/
  | sleep (milliseconds : Nat)
  /-- Until the task holds the link. -/
  | link
  /-- Until so many milliseconds have passed or the client is closed. -/
  | pause (milliseconds : Nat)
deriving DecidableEq

/-- Whether closing the client ends a wait. -/
def Wait.endsOnClose : Wait → Bool
  | .pause _ => true
  | .sleep _ => false
  | .link => false

/-- Why a wait has ended. -/
inductive Woken where
  /-- What was waited for has come. -/
  | inTime
  /-- The client was closed. -/
  | closed
  /-- The deadline has come first. -/
  | expired
deriving DecidableEq

/-- A question of either kind; a wait may have a deadline. -/
inductive Ask where
  | act (a : Act)
  | wait (w : Wait) (deadline : Option Nat)

/-- The replies. -/
def Reply : Ask → Type
  | .act a => a.Reply
  | .wait _ _ => Woken

/-- What a task does. -/
abbrev Talk := Dialogue Ask Reply

/-- Asks a question that takes no time. -/
def act (a : Act) : Talk a.Reply :=
  @Dialogue.question Ask Reply (.act a)

/-- Waits, for as long as it takes. -/
def wait (w : Wait) : Talk Woken :=
  @Dialogue.question Ask Reply (.wait w none)

/-- Waits for the clock alone. -/
def sleep (milliseconds : Nat) : Talk Unit := do
  let _ ← wait (.sleep milliseconds)
  return ()

/-! ## Requests -/

/-- A request straight to the device. -/
def direct (r : Request) : Talk Answer := do
  let latency : Nat ← act .latency
  sleep latency
  act (.answer r)

/-- A pause of a client; none if the client is closed. -/
def rest (milliseconds : Nat) : Talk (Option Unit) := do
  match ← wait (.pause milliseconds) with
  | .inTime => return some ()
  | .closed => return none
  | .expired => return none

/-- One attempt of a client: the answer of a device that is fast enough. -/
def attempt (timeout : Nat) (r : Request) : Talk (Option Answer) := do
  let latency : Nat ← act .latency
  match ← rest (min latency timeout) with
  | none => return none
  | some () =>
      if latency ≤ timeout then
        let answer : Answer ← act (.answer r)
        return some answer
      else return some (.error (.timeout timeout))

/-- How a client's questions are settled. -/
def settleClient (timeout : Nat) : (q : Client.Ask) → Talk (Client.Reply q)
  | .isClosed => act .isClosed
  | .close => act .close
  | .acquire => do
      let _ ← wait .link
      return ()
  | .attempt r => attempt timeout r
  | .rest milliseconds => rest milliseconds
  | .disconnect => return ()
  | .release => act .leave

/-- A request through a client, or straight to the device if there is none. -/
def transport (client : Option LinkSettings) (r : Request) : Talk Answer :=
  match client with
  | none => direct r
  | some s => (Client.call (.ofSettings s) r).settle (settleClient s.timeout)

/-- Closing a client, if there is one. -/
def close (client : Option LinkSettings) : Talk Unit :=
  match client with
  | none => return ()
  | some s => Client.close.settle (settleClient s.timeout)

/-! ## Procedures -/

/-- How the questions of a request about settings are settled. -/
def settleSettings (client : Option LinkSettings) :
    (q : Settings.Ask) → Talk (Settings.Reply q)
  | .send r => transport client r
  | .lookUp => act .lookUp
  | .keep generation config => act (.keep generation config)
  | .forget => act .forget
  | .countWriteFailure => act .countWriteFailure

/-- How the questions of a collection are settled. -/
def settleCollection (client : Option LinkSettings) :
    (q : Collection.Ask) → Talk (Collection.Reply q)
  | .send r => transport client r
  | .pause milliseconds => sleep milliseconds
  | .now => act .now
  | .unixTime => act .unixTime

/-- A request about settings as a task. -/
def settings {α : Type} (client : Option LinkSettings) (p : Settings.Procedure α) :
    Talk (Except SettingsFault α) :=
  Dialogue.settle (settleSettings client) p.run

/-- A collection as a task. -/
def collection (client : Option LinkSettings) (p : Collection.Procedure Snapshot) :
    Talk (Except CollectionFault Snapshot) :=
  Dialogue.settle (settleCollection client) p.run

/-! ## Deadlines -/

/-- The earlier of a deadline and another one that may be absent. -/
def earlier (deadline : Nat) : Option Nat → Nat
  | none => deadline
  | some other => min deadline other

/-- A dialogue with a deadline.  The first wait that is not over by then is the last: the link or
the place in the queue for it is given up, and there is no result. -/
def within {α : Type} (deadline : Nat) : Talk α → Talk (Option α)
  | .done a => .done (some a)
  | .ask (.act a) next => .ask (.act a) fun r => within deadline (next r)
  | .ask (.wait w other) next => .ask (.wait w (some (earlier deadline other))) fun
      | .inTime => within deadline (next .inTime)
      | .closed => within deadline (next .closed)
      | .expired => do
          act .leave
          return none

/-- How the questions of a monitored collection are settled.  It is cut off at its deadline, which
is so many milliseconds after its start. -/
def settleMonitor (client : Option LinkSettings) (deadline : Nat)
    (p : Collection.Procedure Snapshot) : (q : Monitor.Ask) → Talk (Monitor.Reply q)
  | .begin => act .begin
  | .gather => do
      let started : Nat ← act .now
      within (started + deadline) (collection client p)
  | .note n => act (.note n)
  | .unixTime => act .unixTime
  | .finish => act .finish

/-- A collection under the monitor. -/
def collecting (client : Option LinkSettings) (deadline : Nat)
    (p : Collection.Procedure Snapshot) : Talk CollectionResult :=
  Monitor.collecting.settle (settleMonitor client deadline p)

end ChargeController.Session
