import ChargeController.Proofs.Session.Round
import Mathlib.Data.DFinsupp.WellFounded
import Mathlib.SetTheory.Ordinal.Family

/-!
# Time goes on

Tasks may wake each other, so it is not plain that the clock of a bench ever gets to jump.  But
every task comes closer to the end of its dialogue whenever it goes on or is woken.  There is no
bound in numbers to how far that end is, since it depends on replies that nobody knows; there is one
in ordinals.  The loop that collects comes closer to its wait whenever it goes on, however many
tasks it has added.

* `Dialogue.rank` — how far the end of a dialogue is.
* `Bench.left` — how much is left to do for each task at this moment.
* **`Bench.drains`** — within some number of rounds no task can go on, and it is no later.
* **`Bench.settles`** — nor can the loop.
* **`Bench.reaches`** — a bench that collects on its own reaches any time.
-/

namespace ChargeController

namespace Dialogue

variable {Ask : Type} {Reply : Ask → Type} {α : Type} {d d' : Dialogue Ask Reply α}

/-- How far the end of a dialogue is, whatever it is told. -/
noncomputable def rank : Dialogue Ask Reply α → Ordinal.{0}
  | .done _ => 0
  | .ask _ next => ⨆ r, rank (next r) + 1

lemma rank_next_lt {q : Ask} (next : Reply q → Dialogue Ask Reply α) (r : Reply q) :
    rank (next r) < rank (.ask q next) :=
  Ordinal.lt_iSup_add_one (fun r => rank (next r)) r

lemma Leads.rank_le {es : List (Exchange Ask Reply)} (h : Leads d es d') : rank d' ≤ rank d := by
  induction h with
  | stay d => exact le_refl _
  | ask rest ih => exact ih.trans (rank_next_lt ..).le

end Dialogue

namespace Session

namespace Bench

open Dialogue

variable {b b' : Bench} {n m : Nat} {rest : List Nat} {goal : Bench → Bool}

/-- How much is left to do for a task that is on the bench, or is not. -/
noncomputable def leftFor : Option Task → Ordinal.{0}
  | some ⟨.ready talk, _⟩ => talk.rank
  | some ⟨.waiting pending, _⟩ => ⨆ woken, (pending.next woken).rank + 1
  | some ⟨.ended _, _⟩ => 0
  | none => 0

/-- How much is left to do for each of the first tasks. -/
noncomputable def left (k : Nat) (b : Bench) (i : Fin k) : Ordinal.{0} :=
  leftFor (b.task? i)

lemma Roused.leftFor_lt (h : Roused b b' n) : leftFor (b'.task? n) < leftFor (b.task? n) := by
  obtain ⟨pending, awaited, woken, hwaits, hready⟩ := h
  rw [hwaits, hready]
  exact Ordinal.lt_iSup_add_one (fun woken => (pending.next woken).rank) woken

lemma Rouses.leftFor_le (h : Rouses b b') (n : Nat) :
    leftFor (b'.task? n) ≤ leftFor (b.task? n) := by
  rcases h.task n with hsame | hroused
  · rw [hsame]
  · exact hroused.leftFor_lt.le

lemma leftFor_setProgress {pending : Pending} {talk : Talk Outcome} {awaited : Bool}
    {es : List (Exchange Ask Reply)} {w : Wait} {deadline : Option Nat}
    (hready : b.task? n = some ⟨.ready talk, awaited⟩)
    (hleads : Leads talk es (.ask (.wait w deadline) pending.next)) (m : Nat) :
    leftFor ((b.setProgress n (.waiting pending)).task? m) ≤ leftFor (b.task? m) := by
  by_cases hm : m = n
  · subst hm
    rw [task?_setProgress_self hready, hready]
    exact hleads.rank_le
  · rw [task?_setProgress_of_ne hm]

lemma leftFor_finish {outcome : Outcome} (m : Nat) :
    leftFor ((b.finish n outcome).task? m) ≤ leftFor (b.task? m) := by
  unfold finish
  split
  · next progress htask =>
      by_cases hm : m = n
      · subst hm
        rw [task?_setProgress_self htask]
        exact zero_le
      · rw [task?_setProgress_of_ne hm]
  · by_cases hm : m = n
    · subst hm
      rw [task?_forgetTask_self]
      exact zero_le
    · rw [task?_forgetTask_of_ne hm]

/-- When a task goes on, no task has more left to do than before. -/
lemma leftFor_goOn_le (m : Nat) : leftFor ((b.goOn n rest).task? m) ≤ leftFor (b.task? m) := by
  by_cases hready : ∃ talk awaited, b.task? n = some ⟨.ready talk, awaited⟩
  · obtain ⟨talk, awaited, htask⟩ := hready
    obtain ⟨b₁, hrouses, hends⟩ := resume_cases n talk { b with ready := rest }
    have hstill := hrouses.task_of_ready htask
    rw [goOn_of_ready htask]
    rcases hends with ⟨outcome, hends⟩ | ⟨pending, es, w, deadline, hwaits, hleads, -⟩
    · rw [hends]
      exact (leftFor_finish m).trans (hrouses.leftFor_le m)
    · rw [hwaits]
      exact (leftFor_setProgress hstill hleads m).trans (hrouses.leftFor_le m)
  · rw [goOn_of_not_ready (by simpa using hready)]
    exact le_refl _

/-- **A round brings an instant closer to its end**: less is left to do, or fewer tasks can go
on. -/
theorem goOn_decreases (hb : b.Sound) (n : Nat) (rest : List Nat) :
    left b.nextTask (b.goOn n rest) < left b.nextTask b ∨
      left b.nextTask (b.goOn n rest) = left b.nextTask b ∧ (b.goOn n rest).ready = rest := by
  have hle : left b.nextTask (b.goOn n rest) ≤ left b.nextTask b := fun i => leftFor_goOn_le i
  obtain ⟨woken, hready, hwoken⟩ := (goOn_advances b n rest).ready
  cases woken with
  | nil =>
      rcases lt_or_eq_of_le hle with hlt | heq
      · exact .inl hlt
      · exact .inr ⟨heq, by simpa using hready⟩
  | cons m others =>
      have hroused := hwoken m List.mem_cons_self
      obtain ⟨pending, awaited, woken, hwaits, -⟩ := id hroused
      refine .inl (Pi.lt_def.mpr ⟨hle, ⟨m, hb.lt_nextTask hwaits⟩, hroused.leftFor_lt⟩)

lemma runUntil_goOn {rounds : Nat} (hready : b.ready = n :: rest) :
    runUntil goal (rounds + 1) b = runUntil goal rounds (b.goOn n rest) := by
  rw [runUntil]
  simp only [hready]

/-- **Tasks get out of each other's way.**  Within some number of rounds none can go on, at the same
time. -/
theorem drains (goal : Bench → Bool) (hb : b.Sound) :
    ∃ rounds b', (∀ more, runUntil goal (rounds + more) b = runUntil goal more b') ∧
      b'.ready = [] ∧ b'.Sound ∧ b'.now = b.now ∧ b'.poller = b.poller := by
  generalize hk : b.nextTask = k
  generalize hweight : left k b = weight
  induction weight using WellFoundedLT.induction generalizing b with
  | ind weight ih =>
      generalize hlength : b.ready.length = length
      induction length generalizing b with
      | zero =>
          have hready : b.ready = [] := List.length_eq_zero_iff.mp hlength
          exact ⟨0, b, fun more => by rw [Nat.zero_add], hready, hb, rfl, rfl⟩
      | succ length ih' =>
          obtain ⟨n, rest, hready⟩ := List.exists_cons_of_length_eq_add_one hlength
          have hadvances := goOn_advances b n rest
          have hsound := hb.goOn n rest
          have hk' : (b.goOn n rest).nextTask = k := hadvances.nextTask.trans hk
          obtain ⟨rounds, b', hrun, hempty, hsound', hnow, hpoller⟩ :
              ∃ rounds b', (∀ more, runUntil goal (rounds + more) (b.goOn n rest) =
                runUntil goal more b') ∧ b'.ready = [] ∧ b'.Sound ∧
                b'.now = (b.goOn n rest).now ∧ b'.poller = (b.goOn n rest).poller := by
            rcases goOn_decreases hb n rest with hlt | ⟨heq, hrest⟩
            · subst hk hweight
              exact ih _ hlt hsound hk' rfl
            · subst hk hweight
              refine ih' hsound hk' heq ?_
              rw [hrest]
              simpa [hready] using hlength
          refine ⟨rounds + 1, b', fun more => ?_, hempty, hsound', hnow.trans hadvances.now,
            hpoller.trans hadvances.poller⟩
          rw [Nat.add_right_comm, runUntil_goOn hready, hrun]

lemma runUntil_turn {rounds : Nat} (hready : b.ready = []) (hturn : b.turn? = some b') :
    runUntil goal (rounds + 1) b = runUntil goal rounds b' := by
  rw [runUntil]
  simp only [hready, hturn]

/-- **An instant ends.**  Within some number of rounds nobody can go on, at the same time, and the
loop has not ended unless it was told to. -/
theorem settles (goal : Bench → Bool) (hb : b.Sound) :
    ∃ rounds b', (∀ more, runUntil goal (rounds + more) b = runUntil goal more b') ∧
      b'.AtRest ∧ b'.Sound ∧ b'.now = b.now ∧ (b.Collects → b'.Collects) := by
  induction hhaste : b.haste using Nat.strong_induction_on generalizing b with
  | _ haste ih =>
      obtain ⟨rounds, b₁, hrun, hready, hsound, hnow, hpoller⟩ := drains goal hb
      have hcollects (h : b.Collects) : b₁.Collects := by
        rwa [Collects, hpoller]
      cases hturn : b₁.turn? with
      | none =>
          exact ⟨rounds, b₁, hrun, atRest_iff.mpr ⟨hready, hturn⟩, hsound, hnow, hcollects⟩
      | some b₂ =>
          have hturned := (turns_of_turn? hturn).cases hsound.loop
          have hlt : b₂.haste < haste := by
            have hless := hturned.haste_lt hsound.loop
            rwa [Bench.haste.eq_def b₁, hpoller, hnow, ← Bench.haste, hhaste] at hless
          obtain ⟨rounds', b', hrun', hrest, hsound', hnow', hcollects'⟩ :=
            ih _ hlt (hsound.turned hturned) rfl
          refine ⟨rounds + (1 + rounds'), b', fun more => ?_, hrest, hsound', ?_, fun h => ?_⟩
          · rw [Nat.add_assoc, hrun, Nat.add_assoc, Nat.add_comm 1, runUntil_turn hready hturn,
              hrun']
          · rw [hnow', hturned.now, hnow]
          · exact hcollects' (hturned.collects (hcollects h))

lemma runUntil_of_goal {rounds : Nat} (hrest : b.AtRest) (hgoal : goal b = true) :
    runUntil goal rounds b = b := by
  obtain ⟨hready, hturn⟩ := atRest_iff.mp hrest
  cases rounds with
  | zero => rfl
  | succ rounds =>
      rw [runUntil]
      simp only [hready, hturn, hgoal, if_true]

lemma runUntil_jump {rounds : Nat} (hrest : b.AtRest) (hgoal : goal b = false)
    (hjump : b.jump? = some b') : runUntil goal (rounds + 1) b = runUntil goal rounds b' := by
  obtain ⟨hready, hturn⟩ := atRest_iff.mp hrest
  rw [runUntil]
  simp only [hready, hturn, hgoal, hjump, Bool.false_eq_true, if_false]

/-- A bench that collects on its own has a next time, and collects on its own then. -/
lemma exists_jump (hb : b.Collects) : ∃ b', b.jump? = some b' ∧ b'.Collects := by
  obtain ⟨p, hpoller, htold⟩ := hb
  cases htime : b.nextTime? with
  | none => simp [nextTime?, nextPoll, hpoller] at htime
  | some time =>
      obtain ⟨b', hjump⟩ : ∃ b', b.jump? = some b' := by simp [jump?, htime]
      obtain ⟨-, hrouses, -⟩ := jump_cases hjump
      exact ⟨b', hjump, p, hrouses.poller.trans hpoller, htold⟩

/-- **A bench that collects on its own reaches any time**, within some number of rounds, and then
everybody waits or has ended. -/
theorem reaches (hb : b.Sound) (hcollects : b.Collects) (time : Nat) :
    ∃ rounds, ∀ more, let later := runUntil (fun b => time ≤ b.now) (rounds + more) b
      time ≤ later.now ∧ later.AtRest := by
  induction hleft : time - b.now using Nat.strong_induction_on generalizing b with
  | _ left ih =>
      obtain ⟨rounds, b', hrun, hrest, hsound, hnow, hcollects'⟩ :=
        settles (fun b => time ≤ b.now) hb
      by_cases htime : time ≤ b'.now
      · refine ⟨rounds, fun more => ?_⟩
        rw [hrun, runUntil_of_goal hrest (decide_eq_true htime)]
        exact ⟨htime, hrest⟩
      · obtain ⟨b'', hjump, hcollects''⟩ := exists_jump (hcollects' hcollects)
        have hlater := hsound.lt_jump (atRest_iff.mp hrest).2 hjump
        obtain ⟨rounds', hreached⟩ :=
          ih (time - b''.now) (by omega) (hsound.jump hjump) hcollects'' rfl
        refine ⟨rounds + (1 + rounds'), fun more => ?_⟩
        rw [Nat.add_assoc, hrun, Nat.add_assoc, Nat.add_comm 1,
          runUntil_jump hrest (decide_eq_false htime) hjump]
        exact hreached more

end Bench

end Session

end ChargeController
