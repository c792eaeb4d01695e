import ChargeController.Dialogue

/-!
# The loop that collects

A controller that collects on its own runs a loop.  In every turn the loop looks at a channel on
which it may be told to stop, and then waits for its timer or for news on the channel, whichever
comes first.  When the timer has come it starts a collection and does not wait for it.

* `Channel` — a channel that keeps the last value, seen from where the loop listens.
* `Ticker` — a timer that is due once per period.
* `Poller.turn` — one turn of the loop.
* `Poller.offers` — what may end its wait.
-/

namespace ChargeController

/-! ## The channel -/

/-- Something that is done on the other end of a channel. -/
inductive Signal where
  /-- A value is sent. -/
  | value (stop : Bool)
  /-- The last one who could send anything is gone. -/
  | dropped
deriving DecidableEq

/-- A channel that keeps the last value, seen from the one who listens. -/
structure Channel where
  value : Bool
  /-- Whether a value has been sent that has not been noticed yet. -/
  news : Bool
  /-- Whether nobody is left who could send anything. -/
  abandoned : Bool
deriving DecidableEq

namespace Channel

/-- A channel with its first value, which is no news. -/
def opened (value : Bool) : Channel :=
  ⟨value, false, false⟩

/-- The channel after something was done on its other end. -/
def hear (c : Channel) : Signal → Channel
  | .value stop => { c with value := stop, news := true }
  | .dropped => { c with abandoned := true }

/-- The channel after its last value was noticed. -/
def noticed (c : Channel) : Channel :=
  { c with news := false }

end Channel

/-! ## The timer -/

/-- A timer that is due once per period; all times are in milliseconds. -/
structure Ticker where
  period : Nat
  /-- When it is due next. -/
  due : Nat
deriving DecidableEq

namespace Ticker

/-- How late a tick may be without being taken for a missed one. -/
def tolerance : Nat := 5

/-- The timer after a tick.  It is due a period after it was due before; if it was looked at too
late for that, the ticks that were missed are left out. -/
def tick (t : Ticker) (now : Nat) : Ticker :=
  { t with due :=
      if now ≤ t.due + tolerance then t.due + t.period
      else now + t.period - (now - t.due) % t.period }

/-- A tick in time does not move the later ones. -/
theorem due_tick_of_le {t : Ticker} {now : Nat} (h : now ≤ t.due) :
    (t.tick now).due = t.due + t.period :=
  if_pos (Nat.le_trans h (Nat.le_add_right ..))

end Ticker

/-! ## The loop -/

namespace Poller

/-- What may end the wait of the loop. -/
inductive Selected where
  | tick
  | changed
  /-- Nothing can change any more. -/
  | closed
deriving DecidableEq

/-- What the loop asks for. -/
inductive Ask where
  /-- The value on the channel, which remains news if it is. -/
  | borrow
  /-- Waits for the timer or the channel. -/
  | select
  /-- Starts a collection. -/
  | collect

/-- The replies. -/
def Reply : Ask → Type
  | .borrow => Bool
  | .select => Selected
  | .collect => Unit

/-- A dialogue of the loop. -/
abbrev Talk := Dialogue Ask Reply

/-- Asks one question. -/
def ask (q : Ask) : Talk (Reply q) :=
  Dialogue.question q

/-- One turn of the loop, and whether there is another one. -/
def turn : Talk Bool := do
  let stop : Bool ← ask .borrow
  if stop then
    return false
  match ← ask .select with
  | .tick => do
      ask .collect
      return true
  | .changed => return true
  | .closed => return false

/-- Where the loop stands in a turn. -/
inductive Stand where
  | going (talk : Talk Bool)
  /-- It waits for the timer or the channel. -/
  | selecting (next : Selected → Talk Bool)

end Poller

/-- A loop that collects, with its timer and its channel. -/
structure Poller where
  ticker : Ticker
  channel : Channel
  stand : Poller.Stand

namespace Poller

/-- The loop at its start: its timer is due at once. -/
def start (period now : Nat) (channel : Channel) : Poller where
  ticker := ⟨period, now⟩
  channel
  stand := .going turn

/-- What the wait of the loop may end with.  A value that has not been noticed comes before the end
of the channel; between the timer and the channel there is no order. -/
def offers (p : Poller) (now : Nat) : Selected → Bool
  | .tick => p.ticker.due ≤ now
  | .changed => p.channel.news
  | .closed => !p.channel.news && p.channel.abandoned

/-- The loop after its wait has ended. -/
def take (p : Poller) (now : Nat) : Selected → Poller
  | .tick => { p with ticker := p.ticker.tick now }
  | .changed => { p with channel := p.channel.noticed }
  | .closed => p

/-- What the wait of the loop ends with on a bench, which looks at the timer first. -/
def pick? (p : Poller) (now : Nat) : Option Selected :=
  [.tick, .changed, .closed].find? (p.offers now)

end Poller

end ChargeController
