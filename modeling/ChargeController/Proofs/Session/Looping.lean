import ChargeController.Session.Bench
import Mathlib.Data.Bool.Basic
import Mathlib.Tactic.Lemma

/-!
# The loop on a bench

The loop that collects stands either before a turn or in its wait, and in a wait that can end it may
have a choice: its timer and its channel may both be ready.  What it does next is one of five
things, and what it comes to is that it waits for a timer that is not due, on a channel that does
not stop it, or has ended.

* `Poller.Proper` — where the loop stands, and that its timer is not overdue.
* `Bench.Turns` — the loop goes on, in any way that it may.
* **`Bench.Turns.cases`** — all that the loop can do when it goes on.
* **`Poller.Proper.rests`** — what is known of a loop that cannot go on.
* `Bench.haste` — a loop that goes on comes closer to its wait.
-/

namespace ChargeController

open Session (Bench)

/-! ## The turn of the loop -/

namespace Poller

variable {p : Poller} {b b' : Bench}

/-- What the loop does when its wait is over, up to the end of the turn. -/
def selected : Selected → Talk Bool
  | .tick => .ask .collect fun _ => .done true
  | .changed => .done true
  | .closed => .done false

/-- A turn begins with a look at the channel. -/
lemma turn_eq : turn = .ask .borrow fun stop : Bool =>
    if stop then .done false else .ask .select selected := by
  refine congrArg (Dialogue.ask Ask.borrow) (funext fun stop => ?_)
  cases (stop : Bool) with
  | true => rfl
  | false =>
      refine congrArg (Dialogue.ask Ask.select) (funext fun e => ?_)
      cases (e : Selected) with
      | tick => rfl
      | changed => rfl
      | closed => rfl

/-! ## A proper loop -/

/-- A loop stands before a turn or in its wait, and its timer is not overdue.  It waits only while
the last value that it knows does not stop it. -/
structure Proper (p : Poller) (b : Bench) : Prop where
  stand : p.stand = .going turn ∨ p.stand = .selecting selected
  seen : p.stand = .selecting selected → p.channel.news = false → p.channel.value = false
  period : p.ticker.period = b.controller.pollInterval
  positive : 0 < b.controller.pollInterval
  due : b.now ≤ p.ticker.due

namespace Proper

/-- It is proper on any bench with the same settings on which it is not overdue. -/
lemma of_same (hp : p.Proper b) (hcontroller : b'.controller = b.controller)
    (hdue : b'.now ≤ p.ticker.due) : p.Proper b' :=
  ⟨hp.stand, hp.seen, hcontroller ▸ hp.period, hcontroller ▸ hp.positive, hdue⟩

/-- A tick is in time, and the next one is due a period later. -/
lemma due_tick (hp : p.Proper b) :
    (p.ticker.tick b.now).due = p.ticker.due + b.controller.pollInterval := by
  rw [Ticker.due_tick_of_le hp.due, hp.period]

/-- Whatever is done on the other end of the channel is no more than news to it. -/
lemma hear (hp : p.Proper b) (s : Signal) :
    ({ p with channel := p.channel.hear s } : Poller).Proper b := by
  refine ⟨hp.stand, fun hstand hnews => ?_, hp.period, hp.positive, hp.due⟩
  cases s with
  | value stop => cases hnews
  | dropped => exact hp.seen hstand hnews

end Proper

end Poller

namespace Session

namespace Bench

variable {b b' : Bench}

lemma follow_turn (p : Poller) (b : Bench) :
    follow p Poller.turn b =
      if p.channel.value then { b with poller := none }
      else { b with poller := some { p with stand := .selecting Poller.selected } } := by
  rw [Poller.turn_eq, follow.eq_def]
  dsimp only
  cases p.channel.value with
  | true => rfl
  | false => rfl

/-- The loop goes on with the rest of its turn, or with one of the things that may end its wait. -/
inductive Turns (b : Bench) : Bench → Prop
  | goes {p talk} (poller : b.poller = some p) (stand : p.stand = .going talk) :
      Turns b (follow p talk b)
  | picks {p next e} (poller : b.poller = some p) (stand : p.stand = .selecting next)
      (offered : p.offers b.now e = true) : Turns b (follow (p.take b.now e) (next e) b)

/-- What the loop does in a round is one of the ways in which it may go on. -/
lemma turns_of_turn? (h : b.turn? = some b') : b.Turns b' := by
  obtain ⟨p, hpoller, h⟩ := Option.bind_eq_some_iff.mp h
  cases hstand : p.stand with
  | going talk =>
      simp only [hstand] at h
      cases h
      exact .goes hpoller hstand
  | selecting next =>
      simp only [hstand] at h
      obtain ⟨e, hpick, h⟩ := Option.bind_eq_some_iff.mp h
      cases h
      exact .picks hpoller hstand (List.find?_some hpick)

/-- All that a proper loop can do when it goes on. -/
inductive Turned (b : Bench) : Bench → Prop
  /-- It has looked at the channel, and waits. -/
  | begins {p} (poller : b.poller = some p) (stand : p.stand = .going Poller.turn)
      (value : p.channel.value = false) :
      Turned b { b with poller := some { p with stand := .selecting Poller.selected } }
  /-- It has looked at the channel, and ends. -/
  | stops {p} (poller : b.poller = some p) (stand : p.stand = .going Poller.turn)
      (value : p.channel.value = true) : Turned b { b with poller := none }
  /-- The timer has come, and a collection is started. -/
  | ticks {p} (poller : b.poller = some p) (stand : p.stand = .selecting Poller.selected)
      (due : p.ticker.due = b.now) :
      Turned b { b.spawn .collect false with
        poller := some { p with ticker := p.ticker.tick b.now, stand := .going Poller.turn } }
  /-- A value on the channel is noticed. -/
  | notices {p} (poller : b.poller = some p) (stand : p.stand = .selecting Poller.selected)
      (news : p.channel.news = true) :
      Turned b { b with
        poller := some { p with channel := p.channel.noticed, stand := .going Poller.turn } }
  /-- Nobody is left on the channel, and the loop ends. -/
  | closes {p} (poller : b.poller = some p) (stand : p.stand = .selecting Poller.selected)
      (abandoned : p.channel.abandoned = true) : Turned b { b with poller := none }

/-- **What a proper loop does when it goes on.** -/
theorem Turns.cases (proper : ∀ p ∈ b.poller, p.Proper b) (h : b.Turns b') : b.Turned b' := by
  cases h with
  | @goes p talk poller stand =>
      have hp := proper p poller
      obtain rfl : talk = Poller.turn := by
        rcases hp.stand with hstand | hstand
        · cases stand.symm.trans hstand
          rfl
        · cases stand.symm.trans hstand
      rw [follow_turn]
      split_ifs with hvalue
      · exact .stops poller stand hvalue
      · exact .begins poller stand (Bool.eq_false_iff.mpr hvalue)
  | @picks p next e poller stand offered =>
      have hp := proper p poller
      obtain rfl : next = Poller.selected := by
        rcases hp.stand with hstand | hstand
        · cases stand.symm.trans hstand
        · cases stand.symm.trans hstand
          rfl
      cases e with
      | tick => exact .ticks poller stand (Nat.le_antisymm (of_decide_eq_true offered) hp.due)
      | changed =>
          have hturned := Turned.notices poller stand offered
          exact hturned
      | closed => exact .closes poller stand (Bool.and_eq_true_iff.mp offered).2

/-- Only a loop that has not come to its end goes on. -/
lemma Turned.poller_ne (h : b.Turned b') : b.poller ≠ none := by
  cases h with
  | begins poller stand value => simp [poller]
  | stops poller stand value => simp [poller]
  | ticks poller stand due => simp [poller]
  | notices poller stand news => simp [poller]
  | closes poller stand abandoned => simp [poller]

lemma Turned.now (h : b.Turned b') : b'.now = b.now := by
  cases h with
  | _ => rfl

lemma Turned.controller (h : b.Turned b') : b'.controller = b.controller := by
  cases h with
  | _ => rfl

/-! ## Rest -/

/-- Nobody can go on: no task, and not the loop. -/
def AtRest (b : Bench) : Prop :=
  b.ready = [] ∧ b.turn?.isNone = true

instance (b : Bench) : Decidable b.AtRest :=
  inferInstanceAs (Decidable (b.ready = [] ∧ b.turn?.isNone = true))

lemma atRest_iff : b.AtRest ↔ b.ready = [] ∧ b.turn? = none := by
  rw [AtRest, Option.isNone_iff_eq_none]

end Bench

end Session

open Session.Bench in
/-- **A loop that cannot go on** waits, its timer is not due, and nothing on the channel has escaped
it. -/
theorem Poller.Proper.rests {p : Poller} {b : Bench} (hp : p.Proper b) (hpoller : b.poller = some p)
    (hturn : b.turn? = none) :
    b.now < p.ticker.due ∧ p.channel.value = false ∧ p.channel.abandoned = false := by
  have hrest := Option.bind_eq_none_iff.mp hturn p hpoller
  rcases hp.stand with hstand | hstand
  · simp only [hstand] at hrest
    cases hrest
  · simp only [hstand] at hrest
    have hpick : p.pick? b.now = none := by
      cases hpick : p.pick? b.now with
      | none => rfl
      | some e =>
          rw [hpick] at hrest
          cases hrest
    have hnone (e : Selected) (he : e ∈ [.tick, .changed, .closed]) : p.offers b.now e = false :=
      Bool.eq_false_iff.mpr (List.find?_eq_none.mp hpick e he)
    have htick : p.offers b.now .tick = false := hnone _ (by simp)
    have hnews : p.channel.news = false := hnone .changed (by simp)
    have hclosed : p.offers b.now .closed = false := hnone _ (by simp)
    simp only [offers, hnews, Bool.not_false, Bool.true_and] at hclosed
    exact ⟨Nat.lt_of_not_le (of_decide_eq_false htick), hp.seen hstand hnews, hclosed⟩

/-! ## The wait is reached -/

/-- How much a loop may still do before its wait lasts. -/
def Poller.haste (p : Poller) (now : Nat) : Nat :=
  2 * ((decide (p.ticker.due ≤ now)).toNat + p.channel.news.toNat) +
    match p.stand with
    | .going _ => 2
    | .selecting _ => 1

namespace Session

namespace Bench

variable {b b' : Bench}

/-- The same of a bench, where the loop may have ended. -/
def haste (b : Bench) : Nat :=
  match b.poller with
  | some p => p.haste b.now
  | none => 0

/-- **A loop that goes on has less left to do.** -/
theorem Turned.haste_lt (proper : ∀ p ∈ b.poller, p.Proper b) (h : b.Turned b') :
    b'.haste < b.haste := by
  cases h with
  | begins poller stand value =>
      simp only [haste, poller, Poller.haste, stand]
      omega
  | stops poller stand value =>
      simp only [haste, poller, Poller.haste, stand]
      omega
  | @ticks p poller stand due =>
      have hp := proper p poller
      have hlate : ¬ (p.ticker.tick b.now).due ≤ b.now := by
        have hpositive := hp.positive
        rw [hp.due_tick, due]
        omega
      have hnow : p.ticker.due ≤ b.now := Nat.le_of_eq due
      simp only [haste, poller, Poller.haste, stand, spawn, hlate, hnow, decide_false, decide_true,
        Bool.toNat_false, Bool.toNat_true]
      omega
  | notices poller stand news =>
      simp only [haste, poller, Poller.haste, stand, news, Channel.noticed, Bool.toNat_false,
        Bool.toNat_true]
      omega
  | closes poller stand abandoned =>
      simp only [haste, poller, Poller.haste, stand]
      omega

/-- **A proper loop stays so when it goes on.** -/
theorem Turned.proper (proper : ∀ p ∈ b.poller, p.Proper b) (h : b.Turned b') :
    ∀ p ∈ b'.poller, p.Proper b' := by
  cases h with
  | begins poller stand value =>
      have hp := proper _ poller
      rintro _ ⟨⟩
      exact ⟨.inr rfl, fun _ _ => value, hp.period, hp.positive, hp.due⟩
  | stops poller stand value => exact fun _ => nofun
  | ticks poller stand due =>
      have hp := proper _ poller
      rintro _ ⟨⟩
      refine ⟨.inl rfl, nofun, hp.period, hp.positive, ?_⟩
      show b.now ≤ (Ticker.tick _ b.now).due
      rw [hp.due_tick]
      exact Nat.le_add_right_of_le hp.due
  | notices poller stand news =>
      have hp := proper _ poller
      rintro _ ⟨⟩
      exact ⟨.inl rfl, nofun, hp.period, hp.positive, hp.due⟩
  | closes poller stand abandoned => exact fun _ => nofun

/-- The loop goes on, and nobody has told it to end. -/
def Collects (b : Bench) : Prop :=
  ∃ p, b.poller = some p ∧ p.channel.value = false ∧ p.channel.abandoned = false

/-- A loop that nobody has told to end does not end. -/
lemma Turned.collects (h : b.Turned b') (hb : b.Collects) : b'.Collects := by
  obtain ⟨p, hpoller, hvalue, habandoned⟩ := hb
  cases h with
  | begins poller stand value =>
      cases poller.symm.trans hpoller
      exact ⟨_, rfl, hvalue, habandoned⟩
  | stops poller stand value =>
      cases poller.symm.trans hpoller
      cases value.symm.trans hvalue
  | ticks poller stand due =>
      cases poller.symm.trans hpoller
      exact ⟨_, rfl, hvalue, habandoned⟩
  | notices poller stand news =>
      cases poller.symm.trans hpoller
      exact ⟨_, rfl, hvalue, habandoned⟩
  | closes poller stand abandoned =>
      cases poller.symm.trans hpoller
      cases abandoned.symm.trans habandoned

end Bench

end Session

end ChargeController
