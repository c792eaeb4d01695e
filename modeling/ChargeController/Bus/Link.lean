/-!
# The link

One task at a time holds the link to the device.  A task that asks for it while another one holds
it stands in line, and the link is handed from task to task in the order in which they asked.  A
task that leaves, for whatever reason, gives up the link or its place in the line.

* `Link.acquire`, `Link.leave` — the two ways in which the link changes hands.
-/

namespace ChargeController

/-- The line of tasks at the link, and whether its client has been closed. -/
structure Link where
  /-- Who holds the link, by number, and after it who waits for it: first come, first served. -/
  line : List Nat
  closed : Bool
deriving DecidableEq

namespace Link

/-- A link that nobody holds. -/
def free : Link := ⟨[], false⟩

/-- The task that holds the link. -/
def holder (l : Link) : Option Nat :=
  l.line.head?

/-- A task asks for the link: it holds it at once, or waits behind all others. -/
def acquire (l : Link) (task : Nat) : Link :=
  { l with line := l.line ++ [task] }

/-- A task leaves: the link is handed on if it was the task's, and a place in the line is given
up. -/
def leave (l : Link) (task : Nat) : Link :=
  { l with line := l.line.filter (· != task) }

/-- The client is closed; who holds the link keeps it. -/
def close (l : Link) : Link :=
  { l with closed := true }

end Link

end ChargeController
