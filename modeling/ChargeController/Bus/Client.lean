import ChargeController.Bus.Request
import ChargeController.Dialogue

/-!
# A client that shares the bus

All requests go over one link, which one of them holds at a time, from its first attempt to its
last and through the pauses between them.  A failed attempt is repeated a fixed number of times.
Closing the client ends whatever is waiting or pausing.

* `LinkSettings` — the port, the timeout and the retries.
* `Client.call`, `Client.close` — the dialogues of one request and of a closing with the link.
-/

namespace ChargeController

/-- How a client reaches a device. -/
structure LinkSettings where
  serialPort : String
  baudRate : Nat
  slaveId : Nat
  /-- How long an attempt may take, in milliseconds. -/
  timeout : Nat
  /-- How many attempts a request has, the first one included. -/
  retryAttempts : Nat
  /-- The pause between two attempts, in milliseconds. -/
  retryDelay : Nat
deriving DecidableEq

/-- The usual settings. -/
def LinkSettings.usual : LinkSettings :=
  ⟨"/dev/ttyUSB0", 115200, 1, 5000, 2, 5000⟩

/-- The attempts of a request and the pause between them. -/
structure Retries where
  attempts : Nat
  delay : Nat
deriving DecidableEq

namespace Retries

/-- The usual policy. -/
def usual : Retries := ⟨2, 5000⟩

/-- The policy of the given settings; there is always a first attempt. -/
def ofSettings (s : LinkSettings) : Retries :=
  ⟨max s.retryAttempts 1, s.retryDelay⟩

end Retries

namespace Client

/-- What a call asks of the link. -/
inductive Ask where
  | isClosed
  /-- Closes the client. -/
  | close
  /-- Waits until this call holds the link. -/
  | acquire
  /-- One attempt, cut off at the timeout. -/
  | attempt (request : Request)
  /-- A pause between two attempts. -/
  | rest (milliseconds : Nat)
  /-- Ends the connection; that it may fail is of no account. -/
  | disconnect
  | release
deriving DecidableEq

/-- The replies; an attempt or a pause during which the client is closed has none. -/
def Reply : Ask → Type
  | .isClosed => Bool
  | .close => Unit
  | .acquire => Unit
  | .attempt _ => Option Answer
  | .rest _ => Option Unit
  | .disconnect => Unit
  | .release => Unit

/-- A dialogue with the link. -/
abbrev Talk := Dialogue Ask Reply

/-- Asks one question. -/
def ask (q : Ask) : Talk (Reply q) :=
  Dialogue.question q

/-- Tries a request until it succeeds, at most `more` times after the first attempt. -/
def tryRequest (delay : Nat) (r : Request) (more : Nat) : Talk Answer := do
  match ← ask (.attempt r) with
  | none => return .error .closed
  | some (.ok data) => return .ok data
  | some (.error fault) =>
      match more with
      | 0 => return .error fault
      | more + 1 =>
          match ← ask (.rest delay) with
          | none => return .error .closed
          | some () => tryRequest delay r more

/-- One request: refused by a closed client, otherwise tried while holding the link. -/
def call (policy : Retries) (r : Request) : Talk Answer := do
  let closed : Bool ← ask .isClosed
  if closed then
    return .error .closed
  ask .acquire
  let answer ← tryRequest policy.delay r (policy.attempts - 1)
  ask .release
  return answer

/-- Closes the client: whatever waits is ended, and the connection once the link is free. -/
def close : Talk Unit := do
  ask .close
  ask .acquire
  ask .disconnect
  ask .release

/-! ## Describing a client -/

/-- A span of milliseconds in the largest unit that leaves a whole part. -/
def spanText (milliseconds : Nat) : String :=
  if milliseconds = 0 then "0ns"
  else if milliseconds < 1000 then s!"{milliseconds}ms"
  else
    let rest := Text.padLeft 3 (Numeral.digitsOf (milliseconds % 1000))
    let digits := (rest.reverse.dropWhile (· == '0')).reverse
    let fraction := if digits.isEmpty then "" else "." ++ String.ofList digits
    s!"{milliseconds / 1000}" ++ fraction ++ "s"

/-- The text that a client is described by. -/
def describe (policy : Retries) (timeout : Nat) (closed : Bool) : String :=
  "ModbusClient \x7b retry: RetryPolicy \x7b attempts: " ++ toString policy.attempts ++ ", delay: "
    ++ spanText policy.delay ++ " \x7d, request_timeout: " ++ spanText timeout ++ ", closed: "
    ++ (if closed then "true" else "false") ++ ", .. \x7d"

end Client

end ChargeController
