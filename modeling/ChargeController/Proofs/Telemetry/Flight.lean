import ChargeController.Proofs.Telemetry.Notices

/-!
# One collection at a time

Any number of callers ask a monitor for collections, and may be dropped while theirs is gathering
or waits.  At most one collection is in flight at any time, so whatever is noted meanwhile is noted
by it.

* `Monitor.InFlight` — a collection has begun and is not over.
* **`Monitor.running_iff`** — the monitor knows which collection is in flight.
* **`Monitor.notes_run`**, **`Monitor.noted_own`** — the state of a monitor is what has been noted,
  and by whom.
-/

namespace ChargeController

namespace Monitor

open Dialogue Callers

variable {identity : DeviceIdentity} {h h' p q : List (Event Ask Reply)} {e : Event Ask Reply}
  {c c' : Callers Monitor Ask Reply fun _ => CollectionResult} {n m : Nat} {x : Notice}
  {o : CollectionResult}

/-! ## Collections in flight -/

/-- A collection is in flight: it has begun, and has neither finished nor been dropped. -/
def InFlight (n : Nat) (h : List (Event Ask Reply)) : Prop :=
  .told n ⟨.begin, true⟩ ∈ h ∧ .told n ⟨.finish, ()⟩ ∉ h ∧ .dropped n ∉ h

lemma begins_iff {q : Ask} {r : Reply q} :
    turn.begins q r = true ↔ (⟨q, r⟩ : Exchange Ask Reply) = ⟨.begin, true⟩ := by
  constructor
  · intro hbegins
    cases q with
    | begin =>
        obtain rfl : r = true := hbegins
        rfl
    | _ => cases hbegins
  · intro heq
    cases heq
    rfl

lemma ends_iff {q : Ask} : turn.ends q = true ↔ q = .finish := by
  cases q <;> simp [turn]

lemma inTurn_iff_inFlight (run : Run service (fresh (start identity) fun _ => collecting) h c) :
    turn.inTurn n h = true ↔ InFlight n h := by
  rw [run.inTurn_iff fun _ => orderly_collecting, InFlight]
  refine and_congr ⟨?_, fun hmem => ⟨_, _, rfl, hmem⟩⟩
    (and_congr ⟨fun hends => hends _ _ rfl, fun hnot q r hends => ?_⟩ Iff.rfl)
  · rintro ⟨q, r, hbegins, hmem⟩
    rwa [← begins_iff.mp hbegins]
  · obtain rfl := ends_iff.mp hends
    exact hnot

@[simp] lemma running_note {monitor : Monitor} : (monitor.note x).running = monitor.running := by
  cases x <;> rfl

lemma running_drop {monitor : Monitor} : (monitor.drop n).running =
    if monitor.running = some n then none else monitor.running := by
  unfold drop
  split <;> simp_all

/-- A collection begins when none is running. -/
lemma running_of_begins {monitor : Monitor} {q : Ask} {r : Reply q}
    (allowed : service.allows monitor n q r) (hbegins : turn.begins q r = true) :
    monitor.running = none ∧ turn.ends q = false ∧
      (service.replied monitor n q).running = some n := by
  cases begins_iff.mp hbegins
  have hnone : monitor.running = none := Option.isNone_iff_eq_none.mp (Eq.symm allowed)
  refine ⟨hnone, rfl, ?_⟩
  simp [service, begin?, hnone]

lemma running_of_ends {monitor : Monitor} {q : Ask} (hends : turn.ends q = true) :
    (service.replied monitor n q).running =
      if monitor.running = some n then none else monitor.running := by
  obtain rfl := ends_iff.mp hends
  exact running_drop

lemma running_of_neither {monitor : Monitor} {q : Ask} {r : Reply q}
    (allowed : service.allows monitor n q r) (hbegins : turn.begins q r = false)
    (hends : turn.ends q = false) : (service.replied monitor n q).running = monitor.running := by
  cases q with
  | begin =>
      obtain rfl : r = monitor.running.isNone := allowed
      have hsome : monitor.running.isNone = false := hbegins
      cases hrunning : monitor.running with
      | none =>
          rw [hrunning] at hsome
          cases hsome
      | some k => simp [service, begin?, hrunning]
  | gather => rfl
  | note x => exact running_note
  | unixTime => rfl
  | finish => cases hends

/-- One event lets the monitor know which collection is in flight. -/
lemma running_step (hfits : ∀ n, turn.Fits (c.stand n) (turn.inTurn n h))
    (hrunning : ∀ n, turn.inTurn n h = true ↔ c.shared.running = some n)
    (step : Step service c e c') (n : Nat) :
    turn.inTurn n (h ++ [e]) = true ↔ c'.shared.running = some n := by
  rw [Turn.inTurn_concat]
  have hleft {m : Nat} (hm : c.shared.running = some m) (hmn : m ≠ n) :
      ¬ turn.inTurn n h = true := by
    rw [hrunning, hm]
    exact fun heq => hmn (Option.some.inj heq)
  cases step with
  | ask here => exact hrunning n
  | @tell m q next r here allowed =>
      have hfit := hfits m
      rw [here] at hfit
      dsimp only
      cases hbegins : turn.begins q r with
      | true =>
          obtain ⟨hnone, hends, hnow⟩ := running_of_begins allowed hbegins
          rw [hnow]
          by_cases hmn : m = n
          · subst hmn
            rw [Turn.after_told_self, hbegins, hends]
            simp
          · rw [Turn.after_of_ne (e := .told m ⟨q, r⟩) hmn, hrunning, hnone]
            simp [hmn]
      | false =>
          cases hends : turn.ends q with
          | true =>
              have hm := (hrunning m).mp (hfit.2.1 hends).1
              rw [running_of_ends hends, if_pos hm]
              by_cases hmn : m = n
              · subst hmn
                rw [Turn.after_told_self, hends]
                simp
              · rw [Turn.after_of_ne (e := .told m ⟨q, r⟩) hmn]
                simp [hleft hm hmn]
          | false =>
              rw [running_of_neither allowed hbegins hends]
              by_cases hmn : m = n
              · subst hmn
                rw [Turn.after_told_self, hends, hbegins, Bool.not_false, Bool.true_and,
                  Bool.false_or, hrunning]
              · rw [Turn.after_of_ne (e := .told m ⟨q, r⟩) hmn, hrunning]
  | @drop m q next here _ =>
      change _ ↔ (c.shared.drop m).running = some n
      rw [running_drop]
      by_cases hmn : m = n
      · subst hmn
        rw [Turn.after_dropped_self]
        split <;> simp_all
      · rw [Turn.after_of_ne (e := .dropped m) hmn]
        split
        · next hm => simp [hleft hm hmn]
        · exact hrunning n

/-- **The monitor knows which collection is in flight.** -/
theorem running_iff (run : Run service (fresh (start identity) fun _ => collecting) h c) (n : Nat) :
    c.shared.running = some n ↔ InFlight n h := by
  rw [← inTurn_iff_inFlight run]
  refine Iff.symm ?_
  induction run generalizing n with
  | start => simp [fresh, start]
  | next before step ih => exact running_step (before.fits fun _ => orderly_collecting) ih step n

/-- One collection is in flight at most. -/
lemma inFlight_unique (run : Run service (fresh (start identity) fun _ => collecting) h c)
    (hn : InFlight n h) (hm : InFlight m h) : n = m :=
  Option.some.inj (((running_iff run n).mpr hn).symm.trans ((running_iff run m).mpr hm))

/-- Only a collection in flight asks for a snapshot or notes anything. -/
lemma inFlight_of_needs (run : Run service (fresh (start identity) fun _ => collecting) h c)
    {q : Ask} {next : Reply q → Talk CollectionResult} (hstand : c.stand n = .waiting q next)
    (hneeds : turn.needs q = true) : InFlight n h :=
  (inTurn_iff_inFlight run).mp
    (run.inTurn_of_needs (fun _ => orderly_collecting) (.inr hstand) hneeds)

lemma inFlight_or_over (before : Run service (fresh (start identity) fun _ => collecting) h c)
    (run : Run service c h' c') (hin : InFlight n h) :
    InFlight n (h ++ h') ∨ (c'.stand n).IsOver := by
  rw [← inTurn_iff_inFlight (before.trans run)]
  exact before.inTurn_or_over (fun _ => orderly_collecting) run
    ((inTurn_iff_inFlight before).mpr hin)

/-! ## Whose notices they are -/

/-- The monitor, whatever is running. -/
def idle (monitor : Monitor) : Monitor :=
  { monitor with running := none }

lemma idle_note {monitor : Monitor} : (monitor.note x).idle = monitor.idle.note x := by
  cases x <;> rfl

lemma idle_drop {monitor : Monitor} : (monitor.drop n).idle = monitor.idle := by
  unfold drop
  split <;> rfl

lemma idle_begin {monitor : Monitor} : ((monitor.begin? n).getD monitor).idle = monitor.idle := by
  unfold begin?
  split <;> rfl

lemma notes_step (step : Step service c e c') :
    c'.shared.idle = c.shared.idle.notes (noted (said [e])) := by
  cases step with
  | ask here => rfl
  | @tell n q next r here allowed =>
      cases q with
      | begin => exact idle_begin
      | gather => rfl
      | note x => exact idle_note
      | unixTime => rfl
      | finish => exact idle_drop
  | drop here _ => exact idle_drop

/-- **The state of a monitor is what has been noted.** -/
theorem notes_run (run : Run service c h c') :
    c'.shared.idle = c.shared.idle.notes (noted (said h)) := by
  induction run with
  | start => rfl
  | next before step ih => rw [said_append, noted_append, notes_append, ← ih, notes_step step]

lemma noted_step (before : Run service (fresh (start identity) fun _ => collecting) h c)
    (step : Step service c e c') (hin : InFlight n h) :
    noted (said [e]) = noted (own n [e]) := by
  cases step with
  | ask here => rfl
  | drop here _ => rfl
  | @tell m q next r here allowed =>
      by_cases hmn : m = n
      · subst hmn
        rw [said_told, own_told_self]
        rfl
      · rw [said_told, own_of_ne (e := .told m ⟨q, r⟩) hmn]
        refine noted_other fun x hx => ?_
        subst hx
        exact hmn (inFlight_unique before (inFlight_of_needs before here rfl) hin)

/-- While a collection is in flight, everything that is noted is noted by it. -/
theorem noted_own (before : Run service (fresh (start identity) fun _ => collecting) h c)
    (run : Run service c h' c') (hin : InFlight n h) (hover : ¬ (c'.stand n).IsOver) :
    noted (said h') = noted (own n h') := by
  induction run with
  | start => rfl
  | next upTo step ih =>
      have hover' : ¬ (_ : Stand _ _ _).IsOver := fun hover' =>
        hover ((step.stand_of_ne (step.caller_ne hover')).symm ▸ hover')
      have hstill := (inFlight_or_over before upTo hin).resolve_right hover'
      rw [said_append, own_append, noted_append, noted_append, ih hover',
        noted_step (before.trans upTo) step hstill]

end Monitor

end ChargeController
