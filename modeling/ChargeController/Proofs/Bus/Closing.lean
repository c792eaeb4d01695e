import ChargeController.Proofs.Bus.Blocks
import ChargeController.Proofs.Bus.Winding

/-!
# Closing a client

A client may be closed at any moment, whatever its callers are about.  Each of them winds down from
where it stands, and how many attempts it has left depends on that: none if it has been told nothing
yet or makes an attempt, one if it waits for the link.  A caller that sleeps has one left only if it
hears that its pause is over before it hears of the closing.

* `Client.somebody_goes_on` — nobody is stuck in a closed client.
* `Client.TimedRun.sleeper` — what becomes of a caller that sleeps when the client is closed.
* **`close_is_final`** — at most one attempt more, and the connection is ended between attempts.
* `Client.closed_after_pause` — a caller that sleeps, and makes that one.
-/

namespace ChargeController

namespace Client

open Dialogue Callers

/-! ## Nobody is stuck -/

section

variable {policy : Retries} {calls : Nat → Call} {n m k : Nat} {q : Ask} {e : Event Ask Reply}
  {h past later : List (Event Ask Reply)}
  {c c' c₁ c₂ c₃ : Callers Timed Ask Reply fun n => (calls n).Value}

lemma attempts_eq_zero_iff : attempts n h = 0 ↔ ∀ r, .asks n (.attempt r) ∉ h := by
  rw [attempts, List.countP_eq_zero]
  constructor
  · intro hnone r hmem
    exact hnone _ hmem (by rw [begins, beq_self_eq_true]; rfl)
  · intro hnone e he hbegins
    cases e with
    | asks m q =>
        rw [begins, Bool.and_eq_true, beq_iff_eq] at hbegins
        obtain ⟨rfl, hattempt⟩ := hbegins
        cases q with
        | attempt r => exact hnone r he
        | _ => cases hattempt
    | told m x => cases hbegins
    | dropped m => cases hbegins

/-- Whoever waits for the link has not made an attempt. -/
lemma attempts_of_waiting {c : Callers Link Ask Reply fun n => (calls n).Value}
    (run : Run service (fresh Link.free fun n => (calls n).talk policy) h c)
    {next : Reply .acquire → Talk (calls n).Value} (hwaits : c.stand n = .waiting .acquire next) :
    attempts n h = 0 := by
  have horderly := fun n => (calls n).orderly policy
  refine attempts_eq_zero_iff.mpr fun r hmem => ?_
  obtain ⟨h₁, h₂, rfl⟩ := List.append_of_mem hmem
  obtain ⟨-, -, -, -, hturn⟩ := turn_of_use run (.inl ⟨r, rfl⟩)
  obtain ⟨before, after, hbefore, step, hafter⟩ := run.at
  have hturn' : turn.inTurn n (h₁ ++ [.asks n (.attempt r)]) = true := by
    rw [Turn.inTurn_concat]
    exact hturn
  have hstill := (hbefore.next step).inTurn_or_over horderly hafter hturn'
  rw [List.append_assoc, List.singleton_append] at hstill
  have hfits := run.fits horderly n
  rw [hwaits] at hstill hfits
  rcases hstill with hin | hover
  · cases hin.symm.trans ((hfits.2.2 rfl ()).1 rfl)
  · exact hover

/-- Whoever waits for the link is in line. -/
lemma mem_line_of_waiting {c : Callers Link Ask Reply fun n => (calls n).Value}
    (run : Run service (fresh Link.free fun n => (calls n).talk policy) h c)
    {next : Reply .acquire → Talk (calls n).Value} (hwaits : c.stand n = .waiting .acquire next) :
    n ∈ c.shared.line := by
  induction run with
  | start => cases hwaits
  | @next h c₁ e c₂ before step ih =>
      by_cases hne : e.caller ≠ n
      · rw [step.stand_of_ne hne] at hwaits
        have hmem := ih hwaits
        rcases line_step (before.fits fun n => (calls n).orderly policy) step with
          hsame | hjoined | ⟨hleft, -⟩
        · rwa [hsame]
        · rw [hjoined]
          exact Link.mem_line_acquire.mpr (.inl hmem)
        · rw [hleft]
          exact Link.mem_line_leave.mpr ⟨hmem, Ne.symm hne⟩
      · cases step with
        | @ask m q next' here =>
            obtain rfl : m = n := not_not.mp hne
            dsimp only at hwaits
            rw [Function.update_self] at hwaits
            cases hwaits
            exact Link.mem_line_acquire.mpr (.inr rfl)
        | @tell m q next' r here _ =>
            obtain rfl : m = n := not_not.mp hne
            dsimp only at hwaits
            rw [Function.update_self] at hwaits
            cases hwaits
        | @drop m q next' here _ =>
            obtain rfl : m = n := not_not.mp hne
            dsimp only at hwaits
            rw [Function.update_self] at hwaits
            cases hwaits

/-- In a closed client, a caller that is not over can go on, unless it waits for the link and does
not hold it. -/
lemma goes_on (hclosed : c.shared.link.closed = true) (hover : ¬ (c.stand n).IsOver)
    (hlink : ∀ next, c.stand n = .waiting .acquire next → c.shared.link.holder = some n) :
    ∃ e c', e.caller = n ∧ e ≠ .dropped n ∧ Step timed c e c' := by
  cases hstand : c.stand n with
  | going d =>
      rw [hstand] at hover
      cases d with
      | done a => exact absurd trivial hover
      | ask q next => exact ⟨.asks n q, _, rfl, (fun he => nomatch he), .ask hstand⟩
  | waiting q next =>
      have htell (r : Reply q) (hallowed : timed.allows c.shared n q r) :
          ∃ e c', e.caller = n ∧ e ≠ .dropped n ∧ Step timed c e c' :=
        ⟨.told n ⟨q, r⟩, _, rfl, (fun he => nomatch he), .tell hstand hallowed⟩
      cases q with
      | isClosed => exact htell true ⟨hclosed.symm, trivial⟩
      | close => exact htell () ⟨trivial, trivial⟩
      | acquire => exact htell () ⟨hlink next hstand, trivial⟩
      | attempt r => exact htell none ⟨fun _ => hclosed, trivial⟩
      | rest milliseconds => exact htell none ⟨fun _ => hclosed, fun hover => nomatch hover⟩
      | disconnect => exact htell () ⟨trivial, trivial⟩
      | release => exact htell () ⟨trivial, trivial⟩
  | gone =>
      rw [hstand] at hover
      exact absurd trivial hover

/-- **Nobody is stuck in a closed client.**  A caller that is not over can go on, or it waits for
the link and the caller that holds it can. -/
theorem somebody_goes_on
    (run : Run service (fresh Link.free fun n => (calls n).talk policy) h (untimed c))
    (hclosed : c.shared.link.closed = true) (hover : ¬ (c.stand n).IsOver) :
    ∃ m e c', (m = n ∨ c.shared.link.holder = some m) ∧ e.caller = m ∧ e ≠ .dropped m ∧
      Step timed c e c' := by
  by_cases hlink : ∀ next, c.stand n = .waiting .acquire next → c.shared.link.holder = some n
  · obtain ⟨e, c', hgoes⟩ := goes_on hclosed hover hlink
    exact ⟨n, e, c', .inl rfl, hgoes⟩
  · obtain ⟨next, hlink⟩ := not_forall.mp hlink
    obtain ⟨hwaits, -⟩ := Classical.not_imp.mp hlink
    obtain ⟨m, hholder⟩ : ∃ m, c.shared.link.holder = some m := by
      have hmem := mem_line_of_waiting run hwaits
      exact ⟨_, List.head?_eq_some_head (List.ne_nil_of_mem hmem)⟩
    have hmem : m ∈ c.shared.link.line := List.mem_of_mem_head? hholder
    have hgoing : ¬ (c.stand m).IsOver := by
      intro hover
      rcases (Queued.run run).waits m hmem with hin | ⟨next', hwaits'⟩
      · cases hin.symm.trans ((run.fits (fun n => (calls n).orderly policy) m).of_over hover)
      · rw [show c.stand m = _ from hwaits'] at hover
        exact hover
    obtain ⟨e, c', hgoes⟩ := goes_on hclosed hgoing fun _ _ => hholder
    exact ⟨m, e, c', .inr hholder, hgoes⟩

/-! ## Winding down from where it stands -/

/-- Wherever a caller stands, its call can be refused. -/
lemma refusable_at (hdelay : 0 < policy.delay)
    (run : TimedRun (fresh .start fun n => (calls n).talk policy) h c) (n : Nat) :
    ∃ seen d, (∀ a ∈ seen, ∃ r, .told n ⟨.attempt r, some a⟩ ∈ h) ∧
      Refusable (calls n).given seen d ∧ (c.stand n).IsAt d := by
  obtain ⟨d, hleads, hat⟩ := run.untimed.leads (n := n) rfl
  obtain ⟨seen, hseen, hrefusable⟩ := ((calls n).refusable hdelay).leads hleads
  refine ⟨seen, d, fun a ha => ?_, hrefusable, hat⟩
  rcases hseen a ha with ha | ⟨r, hmem⟩
  · cases ha
  · exact ⟨r, mem_own.mp hmem⟩

/-- So it winds down with one attempt, whatever the caller is about. -/
lemma Refusable.winding {s : Timed} {seen : List Answer} {d : Talk (calls n).Value}
    {stand : Stand Ask Reply (calls n).Value} (h : Refusable (calls n).given seen d)
    (hat : stand.IsAt d) : Winding (calls n).given s n 1 seen stand := by
  cases stand with
  | going d' =>
      obtain rfl : d = d' := hat
      exact h.going
  | waiting q next =>
      intro r hsaid
      refine (h.waiting q next hat r (admits_of_said hsaid)).mono (allowance_le q r) fun a ha => ?_
      rcases List.mem_append.mp ha with ha | ha
      · exact List.mem_append_left _ ha
      · exact List.mem_append_right _ (kept_subset q seen ha)
  | gone => trivial

/-- Whoever waits for a reply winds down from there, with as many attempts as the reply leaves. -/
lemma winds_of_waiting (hdelay : 0 < policy.delay)
    (run : TimedRun (fresh .start fun n => (calls n).talk policy) h c)
    {next : Reply q → Talk (calls n).Value} (hwaits : c.stand n = .waiting q next)
    (hrelease : q ≠ .release) (r : Reply q) (hadmits : Admits q r) :
    Winds (calls n).given (allowance q r) (brought q r) (next r) := by
  obtain ⟨seen, d, -, hrefusable, hat⟩ := refusable_at hdelay run n
  rw [hwaits] at hat
  have hwinds := hrefusable.waiting q next hat r hadmits
  have hkept : kept q seen = [] := by
    cases q with
    | release => exact absurd rfl hrelease
    | _ => rfl
  rwa [hkept, List.append_nil] at hwinds

lemma winding_of_waiting (hdelay : 0 < policy.delay)
    (run : TimedRun (fresh .start fun n => (calls n).talk policy) h c)
    {next : Reply q → Talk (calls n).Value} (hwaits : c.stand n = .waiting q next)
    (hrelease : q ≠ .release) (hallowance : ∀ r, allowance q r ≤ k) :
    Winding (calls n).given c.shared n k [] (c.stand n) := by
  rw [hwaits]
  intro r hsaid
  refine (winds_of_waiting hdelay run hwaits hrelease r (admits_of_said hsaid)).mono
    (hallowance r) fun a ha => ?_
  rwa [List.append_nil]

/-- A call that has been told nothing winds down without an attempt. -/
lemma winding_of_unanswered (hdelay : 0 < policy.delay)
    (run : TimedRun (fresh .start fun n => (calls n).talk policy) h c) (hnone : own n h = []) :
    Winding (calls n).given c.shared n 0 [] (c.stand n) ∧
      ∀ r next, c.stand n ≠ .waiting (.attempt r) next := by
  obtain ⟨q, next, htalk, hq⟩ : ∃ q next, (calls n).talk policy = .ask q next ∧
      (q = .isClosed ∨ q = .close) := by
    cases calls n with
    | request r => exact ⟨_, _, rfl, .inl rfl⟩
    | close => exact ⟨_, _, rfl, .inr rfl⟩
  obtain ⟨d, hleads, hat⟩ := run.untimed.leads (n := n) rfl
  rw [hnone] at hleads
  obtain rfl := hleads.unique (.stay _)
  cases hstand : c.stand n with
  | going d =>
      rw [show (untimed c).stand n = _ from hstand] at hat
      obtain rfl : (calls n).talk policy = d := hat
      exact ⟨winds_talk policy (calls n), fun _ _ hs => nomatch hs⟩
  | waiting q' next' =>
      rw [show (untimed c).stand n = _ from hstand] at hat
      cases htalk.symm.trans hat
      rw [← hstand]
      rcases hq with rfl | rfl
      · exact ⟨winding_of_waiting hdelay run hstand (fun h => nomatch h) fun _ => Nat.le_refl 0,
          fun _ _ hs => nomatch hstand.symm.trans hs⟩
      · exact ⟨winding_of_waiting hdelay run hstand (fun h => nomatch h) fun _ => Nat.le_refl 0,
          fun _ _ hs => nomatch hstand.symm.trans hs⟩
  | gone => exact ⟨trivial, fun _ _ hs => nomatch hs⟩

/-- Whoever can be refused when the client is closed winds down from then on. -/
lemma WindingDown.of_closing {known : List Answer}
    (hw : Winding (calls n).given c₁.shared n m known (c₁.stand n))
    (closing : Step timed c₁ (.told k ⟨.close, ()⟩) c₂) :
    WindingDown (calls n).given m known [] c₂ := by
  refine ⟨?_, m, known, Nat.le_of_eq (Nat.zero_add m), fun a ha => .inl ha, ?_⟩
  · cases closing
    rfl
  · by_cases hne : k ≠ n
    · rw [closing.stand_of_ne hne]
      exact hw.congr (due_step closing hne)
    · obtain rfl : k = n := not_not.mp hne
      cases closing with
      | @tell k q next r here allowed =>
          rw [here] at hw
          dsimp only
          rw [Function.update_self]
          exact hw () trivial

/-- Whoever makes no attempt once the client is closed, and is not making one, is brought none. -/
lemma untold_of_no_attempts (hnot : ∀ r next, c₁.stand n ≠ .waiting (.attempt r) next)
    (closing : Step timed c₁ (.told k ⟨.close, ()⟩) c₂) (after : TimedRun c₂ later c₃)
    (hnone : attempts n later = 0) (r : Request) (outcome : Option Answer) :
    .told n ⟨.attempt r, outcome⟩ ∉ later := by
  intro htold
  obtain ⟨h₁, h₂, rfl⟩ := List.append_of_mem htold
  obtain ⟨middle, _, hbefore, step, -⟩ := after.untimed.at
  cases step with
  | @tell n q next r' here _ =>
      rcases hbefore.asked_or_waiting here with hasked | hwaiting
      · exact attempts_eq_zero_iff.mp hnone r (List.mem_append_left _ hasked)
      · have hstand : c₂.stand n = .waiting (.attempt r) next := hwaiting
        by_cases hne : n = k
        · subst hne
          cases closing with
          | tell _ _ =>
              dsimp only at hstand
              rw [Function.update_self] at hstand
              cases hstand
        · rw [closing.stand_of_ne (Ne.symm hne)] at hstand
          exact hnot r next hstand

/-- A call that winds down without an attempt, and is not making one, ends as refused. -/
lemma WindingDown.refused (hdown : WindingDown (calls n).given 0 [] later c₃)
    (hnot : ∀ r next, c₁.stand n ≠ .waiting (.attempt r) next)
    (closing : Step timed c₁ (.told k ⟨.close, ()⟩) c₂) (after : TimedRun c₂ later c₃) :
    attempts n later = 0 ∧
      ∀ value, c₃.stand n = .going (.done value) → value = (calls n).given (.error .closed) := by
  have hnone : attempts n later = 0 := Nat.le_zero.mp hdown.attempts_le
  refine ⟨hnone, fun value hdone => ?_⟩
  rcases hdown.value_of_new hdone with hclosed | ⟨r, answer, htold, -⟩
  · exact hclosed
  · exact absurd htold (untold_of_no_attempts hnot closing after hnone r _)

/-- A caller that waits for the link or for an attempt winds down from there, with one attempt if it
has made none. -/
lemma winding_of_linked (hdelay : 0 < policy.delay)
    (run : TimedRun (fresh .start fun n => (calls n).talk policy) h c)
    (hn : (∃ next, c.stand n = .waiting .acquire next) ∨
      ∃ r next, c.stand n = .waiting (.attempt r) next) :
    ∃ most ≤ 1, (most ≠ 0 → attempts n h = 0) ∧
      Winding (calls n).given c.shared n most [] (c.stand n) := by
  rcases hn with ⟨next, hwaits⟩ | ⟨r, next, hwaits⟩
  · exact ⟨1, Nat.le_refl 1, fun _ => attempts_of_waiting run.untimed hwaits,
      winding_of_waiting hdelay run hwaits (fun h => nomatch h) fun _ => Nat.le_refl 1⟩
  · exact ⟨0, Nat.zero_le 1, fun h => absurd rfl h,
      winding_of_waiting hdelay run hwaits (fun h => nomatch h) fun _ => Nat.le_refl 0⟩

/-- Wherever a caller stands when the client is closed, it makes one attempt more at most, and what
it ends with is the refusal or what one of its attempts has brought. -/
lemma ends_after_closing (hdelay : 0 < policy.delay)
    (before : TimedRun (fresh .start fun n => (calls n).talk policy) past c₁)
    (closing : Step timed c₁ (.told k ⟨.close, ()⟩) c₂) (after : TimedRun c₂ later c₃) (n : Nat) :
    attempts n later ≤ 1 ∧ ∀ value, c₃.stand n = .going (.done value) →
      value = (calls n).given (.error .closed) ∨ ∃ r answer,
        .told n ⟨.attempt r, some answer⟩ ∈ past ++ later ∧ value = (calls n).given answer := by
  obtain ⟨seen, d, hseen, hrefusable, hat⟩ := refusable_at hdelay before n
  have hdown := (WindingDown.of_closing (hrefusable.winding hat) closing).run after
  refine ⟨hdown.attempts_le, fun value hdone => (hdown.value hdone).imp_right ?_⟩
  rintro (⟨answer, hknown, hvalue⟩ | ⟨r, answer, htold, hvalue⟩)
  · obtain ⟨r, htold⟩ := hseen answer hknown
    exact ⟨r, answer, List.mem_append_left _ htold, hvalue⟩
  · exact ⟨r, answer, List.mem_append_right _ htold, hvalue⟩

/-! ## Callers that sleep -/

/-- What has become of a caller that slept when the client was closed: it has been told nothing, or
first of the closing, or first that its pause was over, which then it was. -/
inductive Slept (given : Answer → (calls n).Value) (milliseconds : Nat)
    (next : Reply (.rest milliseconds) → Talk (calls n).Value) (due : Option Nat)
    (h : List (Event Ask Reply)) (c : Callers Timed Ask Reply fun n => (calls n).Value) : Prop
  | silent (untold : own n h = []) (idle : attempts n h = 0) (due_eq : c.shared.due n = due)
      (stands : c.stand n = .waiting (.rest milliseconds) next ∨ c.stand n = .gone)
  | refused (first : (own n h).head? = some ⟨.rest milliseconds, none⟩)
      (down : WindingDown given 0 [] h c)
  | rested (first : (own n h).head? = some ⟨.rest milliseconds, some ()⟩)
      (passed : due.any (· ≤ c.shared.now) = true) (down : WindingDown given 1 [] h c)

variable {given : Answer → (calls n).Value} {milliseconds : Nat}
  {next : Reply (.rest milliseconds) → Talk (calls n).Value} {due : Option Nat}

lemma head?_own_concat {x : Exchange Ask Reply} (h₁ : (own n h).head? = some x) :
    (own n (h ++ [e])).head? = some x := by
  rw [own_append, List.head?_append, h₁]
  rfl

/-- A sleeping caller of a closed client is told of the closing, or that its pause is over. -/
lemma slept_of_told (hnext : ∀ r, Winds given (allowance (.rest milliseconds) r) [] (next r))
    (hclosed : c.shared.link.closed = true) (untold : own n h = []) (idle : attempts n h = 0)
    (due_eq : c.shared.due n = due) (r : Reply (.rest milliseconds))
    (allowed : timed.allows c.shared n (.rest milliseconds) r) :
    Slept given milliseconds next due (h ++ [.told n ⟨.rest milliseconds, r⟩])
      ⟨timed.replied c.shared n (.rest milliseconds),
        Function.update c.stand n (.going (next r))⟩ := by
  have hfirst : (own n (h ++ [.told n ⟨.rest milliseconds, r⟩])).head? =
      some ⟨.rest milliseconds, r⟩ := by
    rw [own_append, untold, own_told_self]
    rfl
  have hdown : WindingDown given (allowance (.rest milliseconds) r) []
      (h ++ [.told n ⟨.rest milliseconds, r⟩])
      ⟨timed.replied c.shared n (.rest milliseconds),
        Function.update c.stand n (.going (next r))⟩ := by
    refine ⟨hclosed, allowance (.rest milliseconds) r, [], ?_, fun _ ha => (nomatch ha), ?_⟩
    · rw [attempts_told, idle, Nat.zero_add]
    · dsimp only
      rw [Function.update_self]
      exact hnext r
  match r with
  | none => exact .refused hfirst hdown
  | some () => exact .rested hfirst (due_eq ▸ allowed.2 rfl) hdown

/-- One event makes nothing else of a sleeping caller. -/
lemma Slept.step (slept : Slept given milliseconds next due h c)
    (hnext : ∀ r, Winds given (allowance (.rest milliseconds) r) [] (next r))
    (hclosed : c.shared.link.closed = true) (step : Step timed c e c') :
    Slept given milliseconds next due (h ++ [e]) c' := by
  cases slept with
  | refused first down => exact .refused (head?_own_concat first) (down.step step)
  | rested first passed down =>
      exact .rested (head?_own_concat first) (now_step step ▸ passed) (down.step step)
  | silent untold idle due_eq stands =>
      by_cases hne : e.caller ≠ n
      · refine .silent ?_ ?_ ((due_step step hne).trans due_eq) ?_
        · rw [own_append, untold, own_of_ne hne]
          rfl
        · rw [attempts_of_ne hne, idle]
        · rwa [step.stand_of_ne hne]
      · cases step with
        | @ask m q next' here =>
            obtain rfl : m = n := not_not.mp hne
            rcases stands with hstand | hstand
            · cases here.symm.trans hstand
            · cases here.symm.trans hstand
        | @drop m q next' here waits =>
            obtain rfl : m = n := not_not.mp hne
            refine .silent ?_ ?_ due_eq (.inr (Function.update_self ..))
            · rw [own_append, untold]
              rfl
            · rw [attempts_concat, idle]
              rfl
        | @tell m q next' r here allowed =>
            obtain rfl : m = n := not_not.mp hne
            rcases stands with hstand | hstand
            · cases here.symm.trans hstand
              exact slept_of_told hnext hclosed untold idle due_eq r allowed
            · cases here.symm.trans hstand

/-- **What becomes of a sleeping caller** in a closed client. -/
theorem TimedRun.sleeper (after : TimedRun c later c')
    (hclosed : c.shared.link.closed = true)
    (hsleeps : c.stand n = .waiting (.rest milliseconds) next)
    (hnext : ∀ r, Winds given (allowance (.rest milliseconds) r) [] (next r)) :
    Slept given milliseconds next (c.shared.due n) later c' := by
  induction after with
  | start => exact .silent rfl rfl rfl (.inl hsleeps)
  | next before step ih => exact ih.step hnext (before.stays_closed hclosed) step
  | @pass h c' time before later ih =>
      cases ih with
      | silent untold idle due_eq stands => exact .silent untold idle due_eq stands
      | refused first down => exact .refused first down.pass
      | rested first passed down =>
          refine .rested first ?_ down.pass
          obtain ⟨time', hdue, hover⟩ := (Option.any_eq_true _ _).mp passed
          exact (Option.any_eq_true _ _).mpr ⟨time', hdue,
            decide_eq_true (Nat.le_trans (of_decide_eq_true hover) later)⟩

/-- A caller that slept ends as refused, unless it was first told that its pause was over. -/
lemma Slept.ends (slept : Slept (calls n).given milliseconds next due later c₃)
    (hnot : ∀ r next, c₁.stand n ≠ .waiting (.attempt r) next)
    (closing : Step timed c₁ (.told k ⟨.close, ()⟩) c₂) (after : TimedRun c₂ later c₃) :
    ((own n later).head? ≠ some ⟨.rest milliseconds, some ()⟩ →
      attempts n later = 0 ∧ ∀ value, c₃.stand n = .going (.done value) →
        value = (calls n).given (.error .closed)) ∧
    ((own n later).head? = some ⟨.rest milliseconds, some ()⟩ →
      due.any (· ≤ c₃.shared.now) = true ∧ attempts n later ≤ 1 ∧
        ∀ value, c₃.stand n = .going (.done value) →
          value = (calls n).given (.error .closed) ∨ ∃ r answer,
            .told n ⟨.attempt r, some answer⟩ ∈ later ∧ value = (calls n).given answer) := by
  cases slept with
  | silent untold idle due_eq stands =>
      refine ⟨fun _ => ⟨idle, fun value hdone => ?_⟩, fun hrested => ?_⟩
      · rcases stands with hstand | hstand
        · cases hdone.symm.trans hstand
        · cases hdone.symm.trans hstand
      · rw [untold] at hrested
        cases hrested
  | refused first down =>
      refine ⟨fun _ => down.refused hnot closing after, fun hrested => ?_⟩
      cases first.symm.trans hrested
  | rested first passed down =>
      exact ⟨fun hother => absurd first hother, fun _ => ⟨passed, down.attempts_le,
        fun value hdone => down.value_of_new hdone⟩⟩

/-! ## All callers -/

/-- **Closing a client is final**, up to one attempt.  Callers talk to a client in time, which then
is closed.

* A call that has been told nothing yet makes no attempt any more and ends as refused.
* So does a call that waits in a pause, unless it is first told that the pause is over.  That it is
  told only when it is so, and then it makes at most one attempt, and ends as refused or with what
  the attempt brings.
* A call that waits for the link, or for an attempt, makes at most one attempt more, and none if it
  has made one; it ends as refused, or with what an attempt brings.
* Wherever a call stands, it makes at most one attempt more, and ends as refused or with what one of
  its attempts has brought.
* No attempt is made while the connection is being ended.
* Whoever is not over can go on, or waits for the link, whose holder can.
* A block write whose bytes do not fit is refused for that, and asks nothing of the client. -/
theorem close_is_final (hdelay : 0 < policy.delay)
    (before : TimedRun (fresh .start fun n => (calls n).talk policy) past c₁)
    (closing : Step timed c₁ (.told k ⟨.close, ()⟩) c₂) (after : TimedRun c₂ later c₃) :
    (∀ n, own n past = [] →
        attempts n later = 0 ∧ ∀ value, c₃.stand n = .going (.done value) →
          value = (calls n).given (.error .closed)) ∧
      (∀ n milliseconds next, c₁.stand n = .waiting (.rest milliseconds) next →
        ((own n later).head? ≠ some ⟨.rest milliseconds, some ()⟩ →
          attempts n later = 0 ∧ ∀ value, c₃.stand n = .going (.done value) →
            value = (calls n).given (.error .closed)) ∧
        ((own n later).head? = some ⟨.rest milliseconds, some ()⟩ →
          (c₁.shared.due n).any (· ≤ c₃.shared.now) = true ∧ attempts n later ≤ 1 ∧
            ∀ value, c₃.stand n = .going (.done value) →
              value = (calls n).given (.error .closed) ∨ ∃ r answer,
                .told n ⟨.attempt r, some answer⟩ ∈ later ∧ value = (calls n).given answer)) ∧
      (∀ n, ((∃ next, c₁.stand n = .waiting .acquire next) ∨
            ∃ r next, c₁.stand n = .waiting (.attempt r) next) →
        attempts n later ≤ 1 ∧ (attempts n later ≠ 0 → attempts n past = 0) ∧
          ∀ value, c₃.stand n = .going (.done value) →
            value = (calls n).given (.error .closed) ∨ ∃ r answer,
              .told n ⟨.attempt r, some answer⟩ ∈ later ∧ value = (calls n).given answer) ∧
      (∀ n, attempts n later ≤ 1 ∧ ∀ value, c₃.stand n = .going (.done value) →
        value = (calls n).given (.error .closed) ∨ ∃ r answer,
          .told n ⟨.attempt r, some answer⟩ ∈ past ++ later ∧
            value = (calls n).given answer) ∧
      (∀ m n r next next', c₃.stand m = .waiting .disconnect next →
        c₃.stand n ≠ .waiting (.attempt r) next') ∧
      (∀ n, (c₃.stand n).IsOver ∨ ∃ m e c₄, (m = n ∨ c₃.shared.link.holder = some m) ∧
        e.caller = m ∧ e ≠ .dropped m ∧ Step timed c₃ e c₄) ∧
      ∀ settings address quantity data,
        data.length % 2 = 1 ∨ data.length ≠ 2 * quantity.toNat →
          ∃ why, Session.Command.writeBlockTalk (some settings) address quantity data =
            pure (.error (.invalid why)) := by
  have whole := (before.untimed.next (untimed_step closing)).trans after.untimed
  have hclosed₂ : c₂.shared.link.closed = true := by
    cases closing
    rfl
  have hclosed : c₃.shared.link.closed = true := after.stays_closed hclosed₂
  refine ⟨fun n hnone => ?_, fun n milliseconds next hsleeps => ?_, fun n hn => ?_, fun n => ?_,
    fun m n r next next' hends hmakes => ?_, fun n => ?_,
    fun settings address quantity data hd => ?_⟩
  · obtain ⟨hw, hnot⟩ := winding_of_unanswered hdelay before hnone
    exact ((WindingDown.of_closing hw closing).run after).refused hnot closing after
  · have hnot : ∀ r next, c₁.stand n ≠ .waiting (.attempt r) next :=
      fun _ _ hs => nomatch hsleeps.symm.trans hs
    have hne : k ≠ n := by
      rintro rfl
      cases closing with
      | tell here _ => cases here.symm.trans hsleeps
    have hslept := after.sleeper hclosed₂ ((closing.stand_of_ne hne).trans hsleeps)
      fun r => winds_of_waiting hdelay before hsleeps (fun h => nomatch h) r trivial
    rw [due_step closing hne] at hslept
    exact hslept.ends hnot closing after
  · obtain ⟨most, hone, hpast, hw⟩ := winding_of_linked hdelay before hn
    have hdown := (WindingDown.of_closing hw closing).run after
    have hle := hdown.attempts_le
    exact ⟨Nat.le_trans hle hone, fun hsome => hpast (by omega), fun value hdone =>
      hdown.value_of_new hdone⟩
  · exact ends_after_closing hdelay before closing after n
  · have horderly := fun n => (calls n).orderly policy
    have hm := whole.inTurn_of_needs horderly (.inr hends) (t := turn) rfl
    have hn := whole.inTurn_of_needs horderly (.inr hmakes) (t := turn) rfl
    obtain rfl := (Queued.run whole).unique hm hn
    cases hends.symm.trans hmakes
  · by_cases hover : (c₃.stand n).IsOver
    · exact .inl hover
    · exact .inr (somebody_goes_on whole hclosed hover)
  · rw [Session.Command.writeBlockTalk, Request.ofBlock_eq]
    by_cases hodd : data.length % 2 = 1
    · exact ⟨_, by rw [if_pos hodd]⟩
    · exact ⟨_, by rw [if_neg hodd, if_neg (hd.resolve_left hodd)]⟩

end

/-! ## Two clients that are closed during a pause -/

instance (s : Timed) (n : Nat) (q : Ask) (r : Reply q) : Decidable (timed.allows s n q r) :=
  match q, r with
  | .rest _, (rested : Option Unit) =>
      inferInstanceAs (Decidable ((Option.isNone rested = true → s.link.closed = true) ∧
        (rested = some () → (s.due n).any (· ≤ s.now) = true)))
  | .isClosed, (closed : Bool) => inferInstanceAs (Decidable (closed = s.link.closed ∧ True))
  | .close, _ => inferInstanceAs (Decidable (True ∧ True))
  | .acquire, _ => inferInstanceAs (Decidable (s.link.holder = some n ∧ True))
  | .attempt _, (outcome : Option Answer) =>
      inferInstanceAs (Decidable ((Option.isNone outcome = true → s.link.closed = true) ∧ True))
  | .disconnect, _ => inferInstanceAs (Decidable (True ∧ True))
  | .release, _ => inferInstanceAs (Decidable (True ∧ True))

lemma TimedRun.of_run {α : Nat → Type} {c c' : Callers Timed Ask Reply α}
    {h : List (Event Ask Reply)} (run : Run timed c h c') : TimedRun c h c' := by
  induction run with
  | start => exact .start
  | next before step ih => exact .next ih step

lemma TimedRun.trans {α : Nat → Type} {c c' c'' : Callers Timed Ask Reply α}
    {h h' : List (Event Ask Reply)} (first : TimedRun c h c') (second : TimedRun c' h' c'') :
    TimedRun c (h ++ h') c'' := by
  induction second with
  | start => rwa [List.append_nil]
  | next before step ih =>
      rw [← List.append_assoc]
      exact .next ih step
  | pass before later ih => exact .pass ih later

/-- What a caller waits for. -/
def waitsFor? {α : Nat → Type} (c : Callers Timed Ask Reply α) (n : Nat) : Option Ask :=
  match c.stand n with
  | .waiting q _ => some q
  | _ => none

lemma waitsFor?_eq_some {α : Nat → Type} {c : Callers Timed Ask Reply α} {n : Nat} {q : Ask}
    (h : waitsFor? c n = some q) : ∃ next, c.stand n = .waiting q next := by
  unfold waitsFor? at h
  split at h
  · next q' next hstand =>
      obtain rfl := Option.some.inj h
      exact ⟨next, hstand⟩
  · cases h

/-- Of the callers of `fourCalls`, the first one holds the link, and the second one waits for it. -/
def untilAttempt : List (Event Ask Reply) :=
  [.asks 0 .isClosed, .told 0 ⟨.isClosed, false⟩, .asks 0 .acquire, .told 0 ⟨.acquire, ()⟩,
    .asks 0 (.attempt (.read .input 0x3104 1)),
    .asks 1 .isClosed, .told 1 ⟨.isClosed, false⟩, .asks 1 .acquire]

/-- The attempt is cut off, and a pause begins. -/
def untilPause : List (Event Ask Reply) :=
  [.told 0 ⟨.attempt (.read .input 0x3104 1), some (.error (.timeout 500))⟩, .asks 0 (.rest 10)]

/-- The pause is ended, the second caller has its attempt, the third one comes too late, and the
connection is being ended. -/
def afterClosing : List (Event Ask Reply) :=
  [.told 0 ⟨.rest 10, none⟩, .asks 0 .release, .told 0 ⟨.release, ()⟩, .told 1 ⟨.acquire, ()⟩,
    .asks 3 .acquire, .asks 1 (.attempt (.read .input 0x3104 1)),
    .asks 2 .isClosed, .told 2 ⟨.isClosed, true⟩,
    .told 1 ⟨.attempt (.read .input 0x3104 1), some (.error (.timeout 500))⟩, .asks 1 (.rest 10),
    .told 1 ⟨.rest 10, none⟩, .asks 1 .release, .told 1 ⟨.release, ()⟩,
    .told 3 ⟨.acquire, ()⟩, .asks 3 .disconnect]

/-- The pause is over, and it is that that its caller is told first: it tries again. -/
def afterPause : List (Event Ask Reply) :=
  [.told 0 ⟨.rest 10, some ()⟩, .asks 0 (.attempt (.read .input 0x3104 1)),
    .told 0 ⟨.attempt (.read .input 0x3104 1), none⟩, .asks 0 .release]

/-- The same callers at another time. -/
def atTime {α : Nat → Type} (time : Nat) (c : Callers Timed Ask Reply α) :
    Callers Timed Ask Reply α :=
  { c with shared := { c.shared with now := time } }

/-- Four callers up to the pause of the first one, and to the closing of the client then and so many
milliseconds after the pause has begun. -/
def pauseAndClose? (wait : Nat) :
    Option (Callers Timed Ask Reply (fun n => (fourCalls n).Value) ×
      Callers Timed Ask Reply fun n => (fourCalls n).Value) := do
  let a ← replay? timed untilAttempt (fresh Timed.start fun n => (fourCalls n).talk ⟨3, 10⟩)
  let b ← replay? timed untilPause (atTime (a.shared.now + 500) a)
  let c₁ ← replay? timed [.asks 3 .close] (atTime (b.shared.now + wait) b)
  let c₂ ← replay? timed [.told 3 ⟨.close, ()⟩] c₁
  return (c₁, c₂)

lemma TimedRun.later {α : Nat → Type} {c c' : Callers Timed Ask Reply α}
    {h : List (Event Ask Reply)} (run : TimedRun c h c') (span : Nat) :
    TimedRun c h (atTime (c'.shared.now + span) c') :=
  .pass run (Nat.le_add_right ..)

lemma run_of_pauseAndClose {wait : Nat}
    {c₁ c₂ : Callers Timed Ask Reply fun n => (fourCalls n).Value}
    (h : pauseAndClose? wait = some (c₁, c₂)) :
    TimedRun (fresh Timed.start fun n => (fourCalls n).talk ⟨3, 10⟩)
        (untilAttempt ++ untilPause ++ [.asks 3 .close]) c₁ ∧
      Step timed c₁ (.told 3 ⟨.close, ()⟩) c₂ := by
  obtain ⟨a, ha, h⟩ := Option.bind_eq_some_iff.mp h
  obtain ⟨b, hb, h⟩ := Option.bind_eq_some_iff.mp h
  obtain ⟨c, hc, h⟩ := Option.bind_eq_some_iff.mp h
  obtain ⟨c', hc', h⟩ := Option.bind_eq_some_iff.mp h
  cases h
  have hfirst := TimedRun.of_run (run_of_replay ha)
  have hsecond := TimedRun.of_run (run_of_replay hb)
  exact ⟨((hfirst.later 500).trans hsecond |>.later wait).trans (.of_run (run_of_replay hc)),
    (run_of_replay hc').of_single⟩

/-- A client with three attempts is closed four milliseconds after its first caller has begun to
pause: that caller makes no second attempt, nor does the second one, which waits for the link, and
the third one, which comes later, makes none at all. -/
theorem closed_during_pause :
    let begun := fresh Timed.start fun n => (fourCalls n).talk ⟨3, 10⟩
    let past := untilAttempt ++ untilPause ++ [.asks 3 .close]
    ∃ c₁ c₂ c₃, TimedRun begun past c₁ ∧ Step timed c₁ (.told 3 ⟨.close, ()⟩) c₂ ∧
      TimedRun c₂ afterClosing c₃ ∧ attempts 0 past = 1 ∧ attempts 0 afterClosing = 0 ∧
      attempts 1 past = 0 ∧ attempts 1 afterClosing = 1 ∧ attempts 2 afterClosing = 0 ∧
      ∀ n r next, c₃.stand n ≠ .waiting (.attempt r) next := by
  intro begun past
  have hplayed : ((pauseAndClose? 4).bind fun (c₁, c₂) =>
      (replay? timed afterClosing c₂).map fun c₃ =>
        [waitsFor? c₁ 0, waitsFor? c₁ 1, waitsFor? c₃ 3]) =
      some [some (.rest 10), some .acquire, some .disconnect] := by decide +kernel
  obtain ⟨⟨c₁, c₂⟩, hclosed, hplayed⟩ := Option.bind_eq_some_iff.mp hplayed
  obtain ⟨c₃, hc₃, hplayed⟩ := Option.map_eq_some_iff.mp hplayed
  simp only [List.cons.injEq, and_true] at hplayed
  obtain ⟨hpause, hlink, hends⟩ := hplayed
  obtain ⟨again, hpause⟩ := waitsFor?_eq_some hpause
  obtain ⟨held, hlink⟩ := waitsFor?_eq_some hlink
  obtain ⟨ended, hends⟩ := waitsFor?_eq_some hends
  obtain ⟨before, closing⟩ := run_of_pauseAndClose hclosed
  have after : TimedRun c₂ afterClosing c₃ := .of_run (run_of_replay hc₃)
  obtain ⟨hlate, hsleeps, hone, -, hapart, -⟩ := close_is_final (by decide) before closing after
  have hrefused : (own 0 afterClosing).head? = some ⟨.rest 10, none⟩ := rfl
  obtain ⟨hfirst, -⟩ := (hsleeps 0 10 again hpause).1 fun h => nomatch hrefused.symm.trans h
  obtain ⟨-, hnone, -⟩ := hone 1 (.inl ⟨held, hlink⟩)
  obtain ⟨hthird, -⟩ := hlate 2 rfl
  have hsome : attempts 1 afterClosing = 1 := by decide
  refine ⟨c₁, c₂, c₃, before, closing, after, by decide, hfirst, hnone (by rw [hsome]; decide),
    hsome, hthird, fun n r next => hapart 3 n r ended next hends⟩

/-- The same client is closed when the pause is just over and its caller has not been told so: then
it may try again.  And two bytes for two registers are refused for their number, also if the client
is closed. -/
theorem closed_after_pause :
    let begun := fresh Timed.start fun n => (fourCalls n).talk ⟨3, 10⟩
    let past := untilAttempt ++ untilPause ++ [.asks 3 .close]
    (∃ c₁ c₂ c₃ next, TimedRun begun past c₁ ∧ c₁.stand 0 = .waiting (.rest 10) next ∧
      Step timed c₁ (.told 3 ⟨.close, ()⟩) c₂ ∧ TimedRun c₂ afterPause c₃ ∧
      attempts 0 afterPause = 1) ∧
    Session.Command.writeBlockTalk (some .usual) 0x9003 2 [0, 1] =
      pure (.error (.invalid (.quantityMismatch 2 1))) := by
  intro begun past
  refine ⟨?_, rfl⟩
  have hplayed : ((pauseAndClose? 10).bind fun (c₁, c₂) =>
      (replay? timed afterPause c₂).map fun _ => waitsFor? c₁ 0) = some (some (.rest 10)) := by
    decide +kernel
  obtain ⟨⟨c₁, c₂⟩, hclosed, hplayed⟩ := Option.bind_eq_some_iff.mp hplayed
  obtain ⟨c₃, hc₃, hpause⟩ := Option.map_eq_some_iff.mp hplayed
  obtain ⟨next, hpause⟩ := waitsFor?_eq_some hpause
  obtain ⟨before, closing⟩ := run_of_pauseAndClose hclosed
  exact ⟨c₁, c₂, c₃, next, before, hpause, closing, .of_run (run_of_replay hc₃), by decide⟩

end Client

end ChargeController
