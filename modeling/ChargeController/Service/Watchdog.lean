import ChargeController.Service.Layer

/-!
# Reporting to the service manager

The service manager is told once that the service is ready, and then wants to hear from it in
regular intervals.  Messages reach it only as long as its address is known, and telling it that the
service is ready forgets the address.

* `pingPeriod?` — how often to send a sign of life.
* `Manager.watch` — the signs of life of a run.
-/

namespace ChargeController

/-- The shortest time between two signs of life, in microseconds. -/
def minPeriod : Nat := 100000

/-- Half the time that the manager would wait, in microseconds.  Without a time, or if the time is
meant for another process, there is none. -/
def pingPeriod? (env : Environment) (ownId : Nat) : Option Nat := do
  let limit ← (env "WATCHDOG_USEC").bind (Text.decimal? UInt64.size)
  let owner := (env "WATCHDOG_PID").bind (Text.decimal? UInt32.size)
  guard (owner.all (· == ownId))
  return max (limit / 2) minPeriod

/-- What the manager has heard. -/
structure Manager where
  /-- Whether its address is known. -/
  isKnown : Bool
  /-- The messages with the times at which they came, in microseconds. -/
  received : List (Nat × String)
deriving DecidableEq

namespace Manager

/-- A manager that has heard nothing yet. -/
def start : Manager := ⟨true, []⟩

/-- Sends a message at each of the given times, if the address is known. -/
def tellAt (m : Manager) (times : List Nat) (message : String) : Manager :=
  if m.isKnown then { m with received := m.received ++ times.map (·, message) } else m

/-- Tells that the service is ready, and forgets the address. -/
def signalReady (m : Manager) (time : Nat) : Manager :=
  { m.tellAt [time] "READY=1" with isKnown := false }

/-- The times of the signs of life in a run: at its start, and then once per period. -/
def pingTimes (period length : Nat) : List Nat :=
  (List.range (length / period + 1)).map (· * period)

/-- The signs of life of a run of the given length, if there is a period. -/
def watch (m : Manager) (period? : Option Nat) (length : Nat) : Manager :=
  match period? with
  | some period => m.tellAt (pingTimes period length) "WATCHDOG=1"
  | none => m

end Manager

end ChargeController
