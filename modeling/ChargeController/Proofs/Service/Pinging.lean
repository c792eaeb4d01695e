import ChargeController.Service.Watchdog
import Mathlib.Data.Option.Basic
import Mathlib.Logic.Relation
import Mathlib.Tactic.Lemma

/-!
# Signs of life

The loop that sends signs of life waits for its timer and for the shutdown value at once.  Its
period is half of what the service manager would wait, so a sign of life may even be late by the
other half.  All of this is worth nothing once the manager's address is forgotten.

* `Pinger.Step` — what the loop does, in the order in which it may happen.
* `Pinger.Paced` — what every step keeps, as long as the address is known.
* **`pings_until_stopped`** — where signs of life come and where none do.
* `silent_once_ready` — telling that the service is ready keeps all of them from coming.
-/

namespace ChargeController

namespace Manager

variable {m : Manager} {times : List Nat} {message : String}

lemma tellAt_of_known (h : m.isKnown = true) :
    m.tellAt times message = ⟨true, m.received ++ times.map (·, message)⟩ := by
  obtain ⟨known, received⟩ := m
  subst h
  rfl

lemma tellAt_of_unknown (h : m.isKnown = false) : m.tellAt times message = m := by
  simp [tellAt, h]

lemma tellAt_tellAt (first second : List Nat) :
    (m.tellAt first message).tellAt second message = m.tellAt (first ++ second) message := by
  cases hknown : m.isKnown with
  | false => simp [tellAt_of_unknown, hknown]
  | true => simp [tellAt_of_known, hknown]

end Manager

/-! ## The loop -/

/-- The loop that sends signs of life, and the manager that hears them. -/
structure Pinger where
  now : Nat
  /-- When the next sign of life is due. -/
  due : Nat
  /-- When the loop came to its end, if it has. -/
  stopped : Option Nat
  manager : Manager

namespace Pinger

/-- The loop at its start. -/
def start (m : Manager) : Pinger := ⟨0, 0, none, m⟩

/-- Up to when the loop has been going. -/
def lived (s : Pinger) : Nat := s.stopped.getD s.now

/-- That the manager has heard a sign of life at some time. -/
def Heard (s : Pinger) (t : Nat) : Prop :=
  (t, "WATCHDOG=1") ∈ s.manager.received

/-- What the loop does with a period, if its timer is late by no more than the given time. -/
inductive Step (period late : Nat) : Pinger → Pinger → Prop
  /-- Time passes. -/
  | wait {s : Pinger} {t : Nat} (later : s.now ≤ t)
      (onTime : s.stopped = none → t ≤ s.due + late) : Step period late s { s with now := t }
  /-- The timer has come to its time, and the next period begins. -/
  | ping {s : Pinger} (going : s.stopped = none) (due : s.due ≤ s.now) :
      Step period late s { s with
        due := s.now + period
        manager := s.manager.tellAt [s.now] "WATCHDOG=1" }
  /-- The shutdown value was set. -/
  | set {s : Pinger} (value : Bool) (going : s.stopped = none) :
      Step period late s { s with stopped := if value then some s.now else none }
  /-- Nobody is left who could set it. -/
  | abandon {s : Pinger} (going : s.stopped = none) :
      Step period late s { s with stopped := some s.now }

/-- The runs of the loop. -/
abbrev Runs (period late : Nat) : Pinger → Pinger → Prop :=
  Relation.ReflTransGen (Step period late)

variable {period late : Nat} {m : Manager} {s s' : Pinger}

lemma lived_of_going (h : s.stopped = none) : s.lived = s.now := by
  simp [lived, h]

/-! ## An address that is known -/

/-- What is known of a loop whose manager has an address. -/
structure Paced (period late : Nat) (m : Manager) (s : Pinger) : Prop where
  known : s.manager.isKnown = true
  onTime : s.lived ≤ s.due + late
  first : s.due = 0 ∨ ∃ t ≤ late, s.Heard t
  filled (t : Nat) : t + period < s.due → ∃ t', t < t' ∧ t' ≤ t + (period + late) ∧ s.Heard t'
  bounded : ∀ e ∈ s.manager.received, e ∈ m.received ∨ ∃ t ≤ s.lived, e = (t, "WATCHDOG=1")

lemma paced_start (hknown : m.isKnown = true) : Paced period late m (start m) where
  known := hknown
  onTime := Nat.zero_le _
  first := .inl rfl
  filled _ ht := absurd ht (Nat.not_lt_zero _)
  bounded _ he := .inl he

/-- A step that sends nothing keeps the pace, if it does not leave a sign of life overdue. -/
lemma Paced.quiet (h : Paced period late m s) {now : Nat} {stopped : Option Nat}
    (hlived : s.lived ≤ stopped.getD now) (honTime : stopped.getD now ≤ s.due + late) :
    Paced period late m { s with now, stopped } where
  known := h.known
  onTime := honTime
  first := h.first
  filled := h.filled
  bounded e he := by
    rcases h.bounded e he with hold | ⟨t, ht, rfl⟩
    · exact .inl hold
    · exact .inr ⟨t, Nat.le_trans ht hlived, rfl⟩

lemma Paced.ping (h : Paced period late m s) (hgoing : s.stopped = none) (hdue : s.due ≤ s.now) :
    Paced period late m { s with
      due := s.now + period
      manager := s.manager.tellAt [s.now] "WATCHDOG=1" } := by
  have hlate := h.onTime
  rw [lived_of_going hgoing] at hlate
  have hlived : lived { s with
      due := s.now + period
      manager := s.manager.tellAt [s.now] "WATCHDOG=1" } = s.now := by
    simp [lived, hgoing]
  have hheard {t : Nat} : Heard { s with
      due := s.now + period
      manager := s.manager.tellAt [s.now] "WATCHDOG=1" } t ↔ s.Heard t ∨ t = s.now := by
    simp [Heard, Manager.tellAt_of_known h.known]
  refine ⟨?_, ?_, ?_, ?_, ?_⟩
  · simp [Manager.tellAt_of_known h.known]
  · rw [hlived]
    show s.now ≤ s.now + period + late
    omega
  · right
    rcases h.first with hzero | ⟨t, ht, hold⟩
    · exact ⟨s.now, by omega, hheard.mpr (.inr rfl)⟩
    · exact ⟨t, ht, hheard.mpr (.inl hold)⟩
  · intro t ht
    change t + period < s.now + period at ht
    by_cases hearlier : t + period < s.due
    · obtain ⟨t', hlow, hhigh, hold⟩ := h.filled t hearlier
      exact ⟨t', hlow, hhigh, hheard.mpr (.inl hold)⟩
    · -- the timer was due a period after `t` at the latest, so this is the sign of life
      exact ⟨s.now, by omega, by omega, hheard.mpr (.inr rfl)⟩
  · intro e he
    simp only [Manager.tellAt_of_known h.known, List.map_cons, List.map_nil, List.mem_append,
      List.mem_singleton] at he
    rw [hlived]
    rcases he with he | rfl
    · rcases h.bounded e he with hold | ⟨t, ht, rfl⟩
      · exact .inl hold
      · exact .inr ⟨t, lived_of_going hgoing ▸ ht, rfl⟩
    · exact .inr ⟨s.now, Nat.le_refl _, rfl⟩

/-- **Every step keeps the pace.** -/
lemma Paced.step (h : Paced period late m s) (hstep : Step period late s s') :
    Paced period late m s' := by
  have honTime := h.onTime
  cases hstep with
  | wait later onTime =>
      apply h.quiet
      · cases hstopped : s.stopped <;> simp_all [lived]
      · cases hstopped : s.stopped <;> simp_all [lived]
  | ping going due => exact h.ping going due
  | set value going =>
      apply h.quiet
      · cases value <;> simp_all [lived]
      · cases value <;> simp_all [lived]
  | abandon going =>
      apply h.quiet
      · simp_all [lived]
      · simp_all [lived]

lemma Paced.runs (h : Paced period late m s) (hruns : Runs period late s s') :
    Paced period late m s' := by
  induction hruns with
  | refl => exact h
  | tail _ hstep ih => exact ih.step hstep

/-- **Between two times that are further apart than the period and the delay** there is a sign of
life. -/
theorem Paced.heard_between (h : Paced period late m s) {t : Nat}
    (ht : t + (period + late) < s.lived) :
    ∃ t', t < t' ∧ t' ≤ t + (period + late) ∧ s.Heard t' := by
  have honTime := h.onTime
  exact h.filled t (by omega)

lemma Paced.heard_first (h : Paced period late m s) (hlived : late < s.lived) :
    ∃ t ≤ late, s.Heard t := by
  have honTime := h.onTime
  rcases h.first with hzero | hfirst
  · omega
  · exact hfirst

/-! ## An address that is not known -/

lemma manager_of_unknown (hruns : Runs period late s s') (h : s.manager.isKnown = false) :
    s'.manager = s.manager := by
  induction hruns with
  | refl => rfl
  | tail _ hstep ih =>
      rw [← ih] at h ⊢
      cases hstep with
      | ping going due => exact Manager.tellAt_of_unknown h
      | wait later onTime => rfl
      | set value going => rfl
      | abandon going => rfl

/-! ## A timer that is never late -/

/-- The loop at one of its times, with all signs of life up to then. -/
lemma runs_to_ping (m : Manager) (n : Nat) :
    Runs period 0 (start m) ⟨n * period, (n + 1) * period, none,
      m.tellAt ((List.range (n + 1)).map (· * period)) "WATCHDOG=1"⟩ := by
  induction n with
  | zero =>
      have hping : Step period 0 (start m) _ := .ping rfl (Nat.le_refl 0)
      simpa [start] using Relation.ReflTransGen.single hping
  | succ n ih =>
      refine (ih.tail (.wait (t := (n + 1) * period) ?_ ?_)).tail ?_
      · exact Nat.mul_le_mul_right period (Nat.le_succ n)
      · intro _
        exact Nat.le_refl _
      · have hping : Step period 0 ⟨(n + 1) * period, (n + 1) * period, none,
            m.tellAt ((List.range (n + 1)).map (· * period)) "WATCHDOG=1"⟩ _ :=
          .ping rfl (Nat.le_refl _)
        have hrange : List.range (n + 1 + 1) = List.range (n + 1) ++ [n + 1] := List.range_succ
        rw [Manager.tellAt_tellAt, ← Nat.succ_mul (n + 1)] at hping
        rw [hrange, List.map_append]
        exact hping

/-- **The signs of life of a run of some length** are those of the loop, stopped at its end. -/
theorem runs_to_watch (hpos : 0 < period) (m : Manager) (length : Nat) :
    ∃ s, Runs period 0 (start m) s ∧ s.stopped = some length ∧
      s.manager = m.watch (some period) length := by
  refine ⟨_, ((runs_to_ping m (length / period)).tail (.wait (t := length) ?_ ?_)).tail
    (.set true rfl), rfl, rfl⟩
  · exact Nat.div_mul_le_self length period
  · intro _
    show length ≤ (length / period + 1) * period
    rw [Nat.mul_comm]
    exact Nat.le_of_lt (Nat.lt_mul_div_succ length hpos)

/-! ## From the start of the service -/

/-- The period of a service that the manager watches. -/
lemma pingPeriod?_eq {env : Environment} {ownId u : Nat}
    (hlimit : (env "WATCHDOG_USEC").bind (Text.decimal? UInt64.size) = some u)
    (howner : ((env "WATCHDOG_PID").bind (Text.decimal? UInt32.size)).all (· == ownId) = true) :
    pingPeriod? env ownId = some (max (u / 2) minPeriod) := by
  have hours := (Option.guard_eq_some' ()).mpr howner
  rw [pingPeriod?, hlimit]
  show (guard _ >>= fun _ => some _) = _
  rw [hours]
  rfl

/-- **Signs of life come once in every time that the manager would wait**, from the start of the
loop until it is stopped, although the timer may be late by half of that time.  None comes after
that, and none at all once the manager has been told that the service is ready. -/
theorem pings_until_stopped {env : Environment} {ownId u late : Nat}
    (hlimit : (env "WATCHDOG_USEC").bind (Text.decimal? UInt64.size) = some u)
    (howner : ((env "WATCHDOG_PID").bind (Text.decimal? UInt32.size)).all (· == ownId) = true)
    (hlarge : 2 * minPeriod ≤ u) (hlate : late ≤ u - u / 2) :
    pingPeriod? env ownId = some (u / 2) ∧
      (∀ (m : Manager) (s : Pinger), m.isKnown = true → Runs (u / 2) late (start m) s →
        (late < s.lived → ∃ t ≤ late, s.Heard t) ∧
        (∀ t, t + u < s.lived → ∃ t', t < t' ∧ t' ≤ t + u ∧ s.Heard t') ∧
        ∀ e ∈ s.manager.received, e ∈ m.received ∨ ∃ t ≤ s.lived, e = (t, "WATCHDOG=1")) ∧
      (∀ (m : Manager) time s, Runs (u / 2) late (start (m.signalReady time)) s →
        s.manager = m.signalReady time) ∧
      ∀ (m : Manager) length, ∃ s, Runs (u / 2) 0 (start m) s ∧ s.stopped = some length ∧
        s.manager = m.watch (pingPeriod? env ownId) length := by
  have hperiod : pingPeriod? env ownId = some (u / 2) := by
    rw [pingPeriod?_eq hlimit howner, Nat.max_eq_left (by omega)]
  refine ⟨hperiod, ?_, ?_, ?_⟩
  · intro m s hknown hruns
    have hpaced := (paced_start hknown).runs hruns
    refine ⟨hpaced.heard_first, ?_, hpaced.bounded⟩
    intro t ht
    obtain ⟨t', hlow, hhigh, hheard⟩ := hpaced.heard_between (show t + (u / 2 + late) < _ by omega)
    exact ⟨t', hlow, by omega, hheard⟩
  · intro m time s hruns
    exact manager_of_unknown hruns rfl
  · intro m length
    rw [hperiod]
    exact runs_to_watch (by unfold minPeriod at hlarge; omega) m length

/-- The surroundings of a service that the manager watches for a second. -/
def watched : Environment :=
  fun name => if name = "WATCHDOG_USEC" then some "1000000" else none

/-- A service that has not yet told that it is ready is heard four times in 1.73 seconds. -/
theorem heard_before_ready :
    pingPeriod? watched 7 = some 500000 ∧
      ∃ s, Runs 500000 0 (start .start) s ∧ s.stopped = some 1730000 ∧
        s.manager.received = [(0, "WATCHDOG=1"), (500000, "WATCHDOG=1"), (1000000, "WATCHDOG=1"),
          (1500000, "WATCHDOG=1")] ∧
        ∀ t, t + 1000000 < 1730000 → ∃ t', t < t' ∧ t' ≤ t + 1000000 ∧ s.Heard t' := by
  obtain ⟨hperiod, hfed, -, hwatch⟩ :=
    pings_until_stopped (show _ = some 1000000 by decide +kernel)
      (show ((watched "WATCHDOG_PID").bind (Text.decimal? UInt32.size)).all (· == 7) = true by
        decide +kernel)
      (by decide) (Nat.zero_le _)
  obtain ⟨s, hruns, hstopped, hmanager⟩ := hwatch .start 1730000
  obtain ⟨-, hwindows, -⟩ := hfed .start s rfl hruns
  refine ⟨hperiod, s, hruns, hstopped, ?_, ?_⟩
  · rw [hmanager, hperiod]
    decide
  · intro t ht
    apply hwindows
    rwa [lived, hstopped]

/-- Once it has, it is not heard at all. -/
theorem silent_once_ready :
    pingPeriod? watched 7 = some 500000 ∧
      ∃ s, Runs 500000 0 (start (Manager.start.signalReady 0)) s ∧ s.stopped = some 1730000 ∧
        s.manager = (Manager.start.signalReady 0).watch (pingPeriod? watched 7) 1730000 ∧
        s.manager.received = [(0, "READY=1")] := by
  have hperiod : pingPeriod? watched 7 = some 500000 := by decide +kernel
  obtain ⟨s, hruns, hstopped, hmanager⟩ :=
    runs_to_watch (show 0 < 500000 by decide) (Manager.start.signalReady 0) 1730000
  refine ⟨hperiod, s, hruns, hstopped, by rw [hmanager, hperiod], ?_⟩
  rw [hmanager]
  decide

end Pinger

end ChargeController
