import ChargeController.Proofs.Bus.Attempts
import ChargeController.Proofs.Bus.Serialization

/-!
# Callers that wind down

A closed client refuses: who comes is sent away, who begins a pause is told so at once, and an
attempt that is under way may be broken off.  A caller that has slept between two attempts hears of
the closing too, unless its pause is over before it is told anything: then either reply may come,
and it may try once more.  What is left to do is little, and the same wherever a call stands.

* `Client.timed`, `Client.TimedRun` — callers of a client in time.
* `Client.Winds` — what a dialogue comes to that is refused wherever a closed client refuses.
* **`Client.Winding.step`** — one event in a closed client winds a caller down.
* **`Client.Call.refusable`** — at every point of a call, how many attempts are left then.
-/

namespace ChargeController

namespace Client

open Dialogue Callers

/-! ## Callers in time -/

/-- A link, the time in milliseconds, and when the last pause of each caller is over. -/
structure Timed where
  link : Link
  now : Nat
  due : Nat → Option Nat

/-- A link that nobody holds, at the start of time. -/
def Timed.start : Timed :=
  ⟨.free, 0, fun _ => none⟩

/-- When a pause is over that begins now.  In a closed client it is not waited for: the closing is
there already when the pause begins, and the end of the pause is not, if the pause has a length. -/
def Timed.pauseEnd (s : Timed) (milliseconds : Nat) : Option Nat :=
  if s.link.closed = true ∧ 0 < milliseconds then none else some (s.now + milliseconds)

/-- The time after a question; a pause begins when it is asked for. -/
def Timed.asked (s : Timed) (n : Nat) (q : Ask) : Timed where
  link := service.asked s.link n q
  now := s.now
  due :=
    match q with
    | .rest milliseconds => Function.update s.due n (s.pauseEnd milliseconds)
    | _ => s.due

/-- Whether a reply comes in time: that a pause is over is not said before it is. -/
def Timed.InTime (s : Timed) (n : Nat) : (q : Ask) → Reply q → Prop
  | .rest _, rested => rested = some () → (s.due n).any (· ≤ s.now) = true
  | _, _ => True

/-- What the link says in time.  To a pause that is over in a client that has been closed meanwhile
it may give either reply. -/
def timed : Service Timed Ask Reply where
  asked := Timed.asked
  allows s n q r := service.allows s.link n q r ∧ s.InTime n q r
  replied s n q := { s with link := service.replied s.link n q }
  waits := service.waits
  dropped s n := { s with link := service.dropped s.link n }

section

variable {α : Nat → Type}

/-- Any number of events in time, which goes on as it likes between them. -/
inductive TimedRun (c : Callers Timed Ask Reply α) :
    List (Event Ask Reply) → Callers Timed Ask Reply α → Prop
  | start : TimedRun c [] c
  | next {h c' e c''} (before : TimedRun c h c') (step : Step timed c' e c'') :
      TimedRun c (h ++ [e]) c''
  | pass {h c' time} (before : TimedRun c h c') (later : c'.shared.now ≤ time) :
      TimedRun c h { c' with shared := { c'.shared with now := time } }

variable {c c' : Callers Timed Ask Reply α} {e : Event Ask Reply} {h : List (Event Ask Reply)}

/-- The same callers, the time aside. -/
def untimed (c : Callers Timed Ask Reply α) : Callers Link Ask Reply α :=
  ⟨c.shared.link, c.stand⟩

lemma untimed_step (step : Step timed c e c') : Step service (untimed c) e (untimed c') := by
  cases step with
  | ask here => exact .ask (c := untimed c) here
  | tell here allowed => exact .tell (c := untimed c) here allowed.1
  | drop here waits => exact .drop (c := untimed c) here waits

/-- **A run in time is a run.** -/
theorem TimedRun.untimed (run : TimedRun c h c') : Run service (untimed c) h (untimed c') := by
  induction run with
  | start => exact .start
  | next before step ih => exact .next ih (untimed_step step)
  | pass before later ih => exact ih

/-- Who has closed a client has done so for good. -/
lemma closed_step (step : Step timed c e c') (hclosed : c.shared.link.closed = true) :
    c'.shared.link.closed = true := by
  cases step with
  | @ask n q next here => cases q <;> exact hclosed
  | @tell n q next r here allowed =>
      cases q with
      | close => rfl
      | _ => exact hclosed
  | drop here waits => exact hclosed

lemma TimedRun.stays_closed (run : TimedRun c h c') (hclosed : c.shared.link.closed = true) :
    c'.shared.link.closed = true := by
  induction run with
  | start => exact hclosed
  | next before step ih => exact closed_step step ih
  | pass before later ih => exact ih

/-- An event takes no time. -/
lemma now_step (step : Step timed c e c') : c'.shared.now = c.shared.now := by
  cases step with
  | ask here => rfl
  | tell here allowed => rfl
  | drop here waits => rfl

/-- Nobody changes when the pause of another caller is over. -/
lemma due_step {n : Nat} (step : Step timed c e c') (hne : e.caller ≠ n) :
    c'.shared.due n = c.shared.due n := by
  cases step with
  | @ask m q next here =>
      cases q with
      | rest milliseconds => exact Function.update_of_ne (Ne.symm hne) _ _
      | _ => rfl
  | tell here allowed => rfl
  | drop here waits => rfl

end

/-! ## Winding down -/

/-- Whether a question is an attempt. -/
def isAttempt : Ask → Bool
  | .attempt _ => true
  | _ => false

/-- The answer that an attempt has brought. -/
def brought : (q : Ask) → Reply q → List Answer
  | .attempt _, outcome => Option.toList outcome
  | _, _ => []

/-- What a closed client says to whoever begins to ask now: it refuses who comes and who pauses. -/
def Refuses : (q : Ask) → Reply q → Prop
  | .isClosed, closed => closed = true
  | .rest _, rested => rested = none
  | _, _ => True

/-- What a closed client may say to whoever has asked before: that a pause is over, too. -/
def Timed.Says (s : Timed) (n : Nat) : (q : Ask) → Reply q → Prop
  | .isClosed, closed => closed = true
  | .rest _, rested => rested = some () → s.due n ≠ none
  | _, _ => True

/-- What a dialogue comes to that is refused: it makes at most so many attempts and asks for no
pause without a length, and it ends with what is given for a closed client, or for an answer that
its attempts have brought. -/
def Winds {α : Type} (given : Answer → α) : Nat → List Answer → Talk α → Prop
  | _, seen, .done a => a = given (.error .closed) ∨ ∃ answer ∈ seen, a = given answer
  | k, seen, .ask q next =>
      (isAttempt q).toNat ≤ k ∧ (∀ milliseconds, q = .rest milliseconds → 0 < milliseconds) ∧
        ∀ r, Refuses q r → Winds given (k - (isAttempt q).toNat) (brought q r ++ seen) (next r)

/-- The same of a caller that stands somewhere. -/
def Winding {α : Type} (given : Answer → α) (s : Timed) (n k : Nat) (seen : List Answer) :
    Stand Ask Reply α → Prop
  | .going d => Winds given k seen d
  | .waiting q next => ∀ r, s.Says n q r → Winds given k (brought q r ++ seen) (next r)
  | .gone => True

/-- More attempts, and more answers to end with, do no harm. -/
lemma Winds.mono {α : Type} {given : Answer → α} {k k' : Nat} {seen seen' : List Answer}
    {d : Talk α} (hw : Winds given k seen d) (hk : k ≤ k') (hseen : seen ⊆ seen') :
    Winds given k' seen' d := by
  induction d generalizing k k' seen seen' with
  | done a => exact hw.imp_right fun ⟨answer, hmem, ha⟩ => ⟨answer, hseen hmem, ha⟩
  | ask q next ih =>
      obtain ⟨hattempt, hpause, hnext⟩ := hw
      refine ⟨Nat.le_trans hattempt hk, hpause, fun r hr => ?_⟩
      refine ih r (hnext r hr) (Nat.sub_le_sub_right hk _) fun a ha => ?_
      rcases List.mem_append.mp ha with ha | ha
      · exact List.mem_append_left _ ha
      · exact List.mem_append_right _ (hseen ha)

/-- Where a caller stands is all that counts, and when its pause is over. -/
lemma Winding.congr {α : Type} {given : Answer → α} {s s' : Timed} {n k : Nat} {seen : List Answer}
    {stand : Stand Ask Reply α} (hw : Winding given s n k seen stand) (hdue : s'.due n = s.due n) :
    Winding given s' n k seen stand := by
  cases stand with
  | going d => exact hw
  | waiting q next =>
      intro r hsaid
      refine hw r ?_
      cases q with
      | rest milliseconds => exact fun hr => hdue ▸ hsaid hr
      | _ => exact hsaid
  | gone => trivial

/-- Whether an event is that a caller begins an attempt. -/
def begins (n : Nat) : Event Ask Reply → Bool
  | .asks m q => m == n && isAttempt q
  | _ => false

/-- How many attempts a caller has begun. -/
def attempts (n : Nat) (h : List (Event Ask Reply)) : Nat :=
  h.countP (begins n)

section

variable {α : Nat → Type} {c c' : Callers Timed Ask Reply α} {e : Event Ask Reply}
  {h : List (Event Ask Reply)} {n k : Nat} {seen : List Answer} {given : Answer → α n}

lemma attempts_concat : attempts n (h ++ [e]) = attempts n h + (begins n e).toNat := by
  rw [attempts, attempts, List.countP_append, List.countP_singleton]
  cases begins n e <;> rfl

lemma begins_of_ne (hne : e.caller ≠ n) : begins n e = false := by
  cases e with
  | asks m q => exact Bool.and_eq_false_imp.mpr fun hm => absurd (beq_iff_eq.mp hm) hne
  | told m x => rfl
  | dropped m => rfl

lemma attempts_of_ne (hne : e.caller ≠ n) : attempts n (h ++ [e]) = attempts n h := by
  rw [attempts_concat, begins_of_ne hne]
  rfl

lemma attempts_told {x : Exchange Ask Reply} : attempts n (h ++ [.told n x]) = attempts n h :=
  attempts_concat

/-- A closed client says nothing else. -/
lemma says_of_allowed {s : Timed} {q : Ask} {r : Reply q} (hclosed : s.link.closed = true)
    (allowed : timed.allows s n q r) : s.Says n q r := by
  cases q with
  | isClosed => exact allowed.1.trans hclosed
  | rest milliseconds =>
      intro hr hdue
      have hover := allowed.2 hr
      rw [hdue] at hover
      cases hover
  | _ => trivial

/-- Whoever begins to wait in a closed client is refused. -/
lemma refuses_of_said {s : Timed} {q : Ask} {r : Reply q} (hclosed : s.link.closed = true)
    (hpause : ∀ milliseconds, q = .rest milliseconds → 0 < milliseconds)
    (hsaid : (s.asked n q).Says n q r) : Refuses q r := by
  cases q with
  | isClosed => exact hsaid
  | rest milliseconds =>
      have hnever : (s.asked n (.rest milliseconds)).due n = none :=
        (Function.update_self ..).trans (if_pos ⟨hclosed, hpause milliseconds rfl⟩)
      show r = none
      cases hr : (r : Option Unit) with
      | none => rfl
      | some u => exact absurd hnever (hsaid hr)
  | _ => trivial

/-- **One event in a closed client winds a caller down.** -/
theorem Winding.step (hw : Winding given c.shared n k seen (c.stand n)) (step : Step timed c e c')
    (hclosed : c.shared.link.closed = true) :
    ∃ k' seen', (begins n e).toNat + k' ≤ k ∧
      (∀ a ∈ seen', a ∈ seen ∨ ∃ r, e = .told n ⟨.attempt r, some a⟩) ∧
      Winding given c'.shared n k' seen' (c'.stand n) := by
  by_cases hne : e.caller ≠ n
  · rw [begins_of_ne hne, step.stand_of_ne hne]
    exact ⟨k, seen, Nat.le_of_eq (Nat.zero_add k), fun a ha => .inl ha,
      hw.congr (due_step step hne)⟩
  · cases step with
    | @ask m q next here =>
        obtain rfl : m = n := not_not.mp hne
        rw [here] at hw
        obtain ⟨hk, hpause, hnext⟩ := hw
        refine ⟨k - (isAttempt q).toNat, seen, ?_, fun a ha => .inl ha, ?_⟩
        · have hbegins : begins m (.asks m q) = isAttempt q := by
            rw [begins, beq_self_eq_true, Bool.true_and]
          rw [hbegins]
          omega
        · dsimp only
          rw [Function.update_self]
          exact fun r hsaid => hnext r (refuses_of_said hclosed hpause hsaid)
    | @tell m q next r here allowed =>
        obtain rfl : m = n := not_not.mp hne
        rw [here] at hw
        refine ⟨k, brought q r ++ seen, Nat.le_of_eq (Nat.zero_add k), fun a ha => ?_, ?_⟩
        · rcases List.mem_append.mp ha with ha | ha
          · cases q with
            | attempt request =>
                obtain rfl : r = some a := Option.mem_toList.mp ha
                exact .inr ⟨request, rfl⟩
            | _ => cases ha
          · exact .inl ha
        · dsimp only
          rw [Function.update_self]
          exact hw r (says_of_allowed hclosed allowed)
    | @drop m q next here waits =>
        obtain rfl : m = n := not_not.mp hne
        refine ⟨k, seen, Nat.le_of_eq (Nat.zero_add k), fun a ha => .inl ha, ?_⟩
        dsimp only
        rw [Function.update_self]
        trivial

/-- A caller of a closed client that winds down: how many attempts are left, and what it may end
with, which it knew at first or has been brought meanwhile. -/
structure WindingDown (given : Answer → α n) (most : Nat) (known : List Answer)
    (h : List (Event Ask Reply)) (c : Callers Timed Ask Reply α) : Prop where
  closed : c.shared.link.closed = true
  stands : ∃ k seen, attempts n h + k ≤ most ∧
    (∀ a ∈ seen, a ∈ known ∨ ∃ r, .told n ⟨.attempt r, some a⟩ ∈ h) ∧
    Winding given c.shared n k seen (c.stand n)

variable {most : Nat} {known : List Answer}

lemma WindingDown.step (hdown : WindingDown given most known h c) (step : Step timed c e c') :
    WindingDown given most known (h ++ [e]) c' := by
  obtain ⟨hclosed, k, seen, hk, hseen, hw⟩ := hdown
  obtain ⟨k', seen', hk', hseen', hw'⟩ := hw.step step hclosed
  refine ⟨closed_step step hclosed, k', seen', ?_, fun a ha => ?_, hw'⟩
  · rw [attempts_concat]
    omega
  · rcases hseen' a ha with ha | ⟨r, rfl⟩
    · exact (hseen a ha).imp_right fun ⟨r, hr⟩ => ⟨r, List.mem_append_left _ hr⟩
    · exact .inr ⟨r, List.mem_append_right _ List.mem_cons_self⟩

/-- Time alone changes nothing for it. -/
lemma WindingDown.pass {time : Nat} (hdown : WindingDown given most known h c) :
    WindingDown given most known h { c with shared := { c.shared with now := time } } := by
  obtain ⟨hclosed, k, seen, hk, hseen, hw⟩ := hdown
  exact ⟨hclosed, k, seen, hk, hseen, hw.congr rfl⟩

/-- **Whoever winds down goes on to do so.** -/
theorem WindingDown.run (hdown : WindingDown given most known [] c) (run : TimedRun c h c') :
    WindingDown given most known h c' := by
  induction run with
  | start => exact hdown
  | next before step ih => exact ih.step step
  | pass before later ih => exact ih.pass

lemma WindingDown.attempts_le (hdown : WindingDown given most known h c) : attempts n h ≤ most := by
  obtain ⟨-, k, seen, hk, -⟩ := hdown
  exact Nat.le_trans (Nat.le_add_right _ _) hk

/-- What a caller that winds down has got in the end. -/
lemma WindingDown.value (hdown : WindingDown given most known h c) {value : α n}
    (hdone : c.stand n = .going (.done value)) :
    value = given (.error .closed) ∨ (∃ answer ∈ known, value = given answer) ∨
      ∃ r answer, .told n ⟨.attempt r, some answer⟩ ∈ h ∧ value = given answer := by
  obtain ⟨-, k, seen, -, hseen, hw⟩ := hdown
  rw [hdone] at hw
  refine hw.imp_right ?_
  rintro ⟨answer, hmem, hvalue⟩
  rcases hseen answer hmem with hknown | ⟨r, htold⟩
  · exact .inl ⟨answer, hknown, hvalue⟩
  · exact .inr ⟨r, answer, htold, hvalue⟩

/-- If it knew nothing at first, that is the refusal or what an attempt has brought meanwhile. -/
lemma WindingDown.value_of_new (hdown : WindingDown given most [] h c) {value : α n}
    (hdone : c.stand n = .going (.done value)) :
    value = given (.error .closed) ∨
      ∃ r answer, .told n ⟨.attempt r, some answer⟩ ∈ h ∧ value = given answer :=
  (hdown.value hdone).imp_right fun hvalue =>
    hvalue.resolve_left fun ⟨_, hknown, _⟩ => nomatch hknown

end

/-! ## The points of a call -/

/-- What a call gets out of an answer. -/
def Call.given : (x : Call) → Answer → x.Value
  | .request _, answer => answer
  | .close, _ => ()

/-- How many attempts a call has left when it is given a reply in a closed client. -/
def allowance : (q : Ask) → Reply q → Nat
  | .acquire, _ => 1
  | .rest _, rested => (Option.isSome rested).toNat
  | _, _ => 0

lemma allowance_le (q : Ask) (r : Reply q) : allowance q r ≤ 1 := by
  cases q with
  | rest milliseconds => exact Bool.toNat_le _
  | acquire => exact Nat.le_refl 1
  | _ => exact Nat.zero_le 1

/-- What a call may still end with of what it has been brought: all that counts is the answer that
it is about to give, while it gives the link back. -/
def kept : Ask → List Answer → List Answer
  | .release, seen => seen
  | _, _ => []

lemma kept_subset (q : Ask) (seen : List Answer) : kept q seen ⊆ seen := by
  cases q with
  | release => exact fun _ ha => ha
  | _ => exact List.nil_subset seen

/-- What a closed client may say, whatever was asked before it was closed. -/
def Admits : (q : Ask) → Reply q → Prop
  | .isClosed, closed => closed = true
  | _, _ => True

lemma admits_of_said {s : Timed} {n : Nat} {q : Ask} {r : Reply q} (h : s.Says n q r) :
    Admits q r := by
  cases q with
  | isClosed => exact h
  | _ => trivial

/-- A dialogue can be refused: before its question it winds down with one attempt, and while it
waits for the reply with as many as the reply leaves it. -/
structure Refusable {α : Type} (given : Answer → α) (seen : List Answer) (d : Talk α) : Prop where
  going : Winds given 1 seen d
  waiting : ∀ q next, d = .ask q next → ∀ r, Admits q r →
    Winds given (allowance q r) (brought q r ++ kept q seen) (next r)

section

variable {α : Type} {given : Answer → α} {policy : Retries} {r : Request} {q : Ask} {k : Nat}
  {seen : List Answer}

/-- At every point of a dialogue, together with the answers that it has been brought by then. -/
def Along (P : List Answer → Talk α → Prop) : List Answer → Talk α → Prop
  | seen, .done a => P seen (.done a)
  | seen, .ask q next => P seen (.ask q next) ∧ ∀ r, Along P (brought q r ++ seen) (next r)

lemma Along.here {P : List Answer → Talk α → Prop} {d : Talk α} (h : Along P seen d) :
    P seen d := by
  cases d with
  | done a => exact h
  | ask q next => exact h.1

/-- Wherever replies have led a dialogue, with the answers that were among them. -/
lemma Along.leads {P : List Answer → Talk α → Prop} {d d' : Talk α}
    {es : List (Exchange Ask Reply)} (h : Along P seen d) (hleads : Leads d es d') :
    ∃ seen', (∀ a ∈ seen', a ∈ seen ∨ ∃ r, ⟨.attempt r, some a⟩ ∈ es) ∧ P seen' d' := by
  induction hleads generalizing seen with
  | stay d => exact ⟨seen, fun _ ha => .inl ha, h.here⟩
  | @ask q next r es d' rest ih =>
      obtain ⟨seen', hseen', hP⟩ := ih (h.2 r)
      refine ⟨seen', fun a ha => ?_, hP⟩
      rcases hseen' a ha with ha | ⟨request, hmem⟩
      · rcases List.mem_append.mp ha with ha | ha
        · cases q with
          | attempt request =>
              obtain rfl : r = some a := Option.mem_toList.mp ha
              exact .inr ⟨request, List.mem_cons_self⟩
          | _ => cases ha
        · exact .inl ha
      · exact .inr ⟨request, List.mem_cons_of_mem _ hmem⟩

/-- A question that is neither an attempt nor a pause. -/
lemma winds_ask {next : Reply q → Talk α} (hattempt : ∀ r, q ≠ .attempt r)
    (hrest : ∀ milliseconds, q ≠ .rest milliseconds)
    (hnext : ∀ r, Refuses q r → Winds given k seen (next r)) :
    Winds given k seen (.ask q next) := by
  cases q with
  | attempt r => exact absurd rfl (hattempt r)
  | rest milliseconds => exact absurd rfl (hrest milliseconds)
  | _ => exact ⟨Nat.zero_le k, fun _ hq => (nomatch hq), hnext⟩

lemma refusable_done {a : α} (h : a = given (.error .closed) ∨ ∃ answer ∈ seen, a = given answer) :
    Along (Refusable given) seen (.done a) :=
  ⟨h, fun _ _ hq => nomatch hq⟩

lemma refusable_ask {next : Reply q → Talk α} (hgoing : Winds given 1 seen (.ask q next))
    (hwaiting : ∀ r, Admits q r →
      Winds given (allowance q r) (brought q r ++ kept q seen) (next r))
    (hnext : ∀ r, Along (Refusable given) (brought q r ++ seen) (next r)) :
    Along (Refusable given) seen (.ask q next) := by
  refine ⟨⟨hgoing, fun _ _ hq => ?_⟩, hnext⟩
  cases hq
  exact hwaiting

/-- The end of a request that holds the link. -/
def giveBack (answer : Answer) : Talk Answer :=
  ask .release >>= fun _ => pure answer

lemma winds_giveBack {answer : Answer} (h : answer = .error .closed ∨ answer ∈ seen) :
    Winds id k seen (giveBack answer) :=
  winds_ask (fun _ hq => nomatch hq) (fun _ hq => nomatch hq) fun _ _ =>
    h.imp_right fun hmem => ⟨answer, hmem, rfl⟩

lemma refusable_giveBack {answer : Answer} (h : answer = .error .closed ∨ answer ∈ seen) :
    Along (Refusable id) seen (giveBack answer) := by
  have hdone : answer = id (.error .closed) ∨ ∃ a ∈ seen, answer = id a :=
    h.imp_right fun hmem => ⟨answer, hmem, rfl⟩
  exact refusable_ask (winds_giveBack h) (fun _ _ => hdone) fun _ => refusable_done hdone

/-- A pause that is refused is the last one. -/
lemma winds_rest (hdelay : 0 < policy.delay) (again : Talk Answer) :
    Winds id k seen
      (.ask (.rest policy.delay) fun outcome => (rested again outcome).bind giveBack) := by
  refine ⟨Nat.zero_le k, fun milliseconds hq => ?_, fun outcome hrefused => ?_⟩
  · cases hq
    exact hdelay
  · obtain rfl : outcome = none := hrefused
    exact winds_giveBack (.inl rfl)

/-- After an attempt that is refused there is no other one. -/
lemma winds_tried (hdelay : 0 < policy.delay) (more : Nat) (outcome : Option Answer) :
    Winds id 0 (outcome.toList ++ seen) ((tried policy.delay r more outcome).bind giveBack) := by
  match more, outcome with
  | _, none => exact winds_giveBack (.inl rfl)
  | _, some (.ok data) => exact winds_giveBack (.inr List.mem_cons_self)
  | 0, some (.error fault) => exact winds_giveBack (.inr List.mem_cons_self)
  | more + 1, some (.error fault) => exact winds_rest hdelay _

/-- A request that is refused makes one more attempt at most. -/
lemma winds_tryRequest (hdelay : 0 < policy.delay) (more : Nat) :
    Winds id 1 seen (tryRequest policy.delay r more >>= giveBack) := by
  rw [tryRequest_eq]
  exact ⟨Nat.le_refl 1, fun _ hq => (nomatch hq), fun outcome _ => winds_tried hdelay more outcome⟩

/-- A request can be refused while it makes an attempt, and so wherever it can be refused later. -/
lemma refusable_attempt (hdelay : 0 < policy.delay) (more : Nat)
    (hlater : ∀ outcome : Option Answer, Along (Refusable id) (outcome.toList ++ seen)
      ((tried policy.delay r more outcome).bind giveBack)) :
    Along (Refusable id) seen (tryRequest policy.delay r more >>= giveBack) := by
  have hwinds : Winds id 1 seen (tryRequest policy.delay r more >>= giveBack) :=
    winds_tryRequest hdelay more
  rw [tryRequest_eq] at hwinds ⊢
  exact refusable_ask hwinds (fun outcome _ => winds_tried hdelay more outcome) hlater

lemma refusable_tryRequest (hdelay : 0 < policy.delay) (more : Nat) :
    Along (Refusable id) seen (tryRequest policy.delay r more >>= giveBack) := by
  induction more generalizing seen with
  | zero =>
      refine refusable_attempt hdelay 0 fun outcome => ?_
      match outcome with
      | none => exact refusable_giveBack (.inl rfl)
      | some (.ok data) => exact refusable_giveBack (.inr List.mem_cons_self)
      | some (.error fault) => exact refusable_giveBack (.inr List.mem_cons_self)
  | succ more ih =>
      refine refusable_attempt hdelay (more + 1) fun outcome => ?_
      match outcome with
      | none => exact refusable_giveBack (.inl rfl)
      | some (.ok data) => exact refusable_giveBack (.inr List.mem_cons_self)
      | some (.error fault) =>
          refine refusable_ask (winds_rest hdelay _) (fun outcome _ => ?_) fun outcome => ?_
          · match outcome with
            | none => exact winds_giveBack (.inl rfl)
            | some () => exact winds_tryRequest hdelay more
          · match outcome with
            | none => exact refusable_giveBack (.inl rfl)
            | some () => exact ih

/-- A call that is refused before it is told anything makes no attempt. -/
lemma winds_talk (policy : Retries) (x : Call) : Winds x.given 0 seen (x.talk policy) := by
  cases x with
  | request r =>
      refine winds_ask (fun _ hq => nomatch hq) (fun _ hq => nomatch hq) fun closed hrefused => ?_
      obtain rfl : closed = true := hrefused
      exact .inl rfl
  | close =>
      refine winds_ask (fun _ hq => nomatch hq) (fun _ hq => nomatch hq) fun _ _ => ?_
      refine winds_ask (fun _ hq => nomatch hq) (fun _ hq => nomatch hq) fun _ _ => ?_
      refine winds_ask (fun _ hq => nomatch hq) (fun _ hq => nomatch hq) fun _ _ => ?_
      exact winds_ask (fun _ hq => nomatch hq) (fun _ hq => nomatch hq) fun _ _ => .inl rfl

/-- **A call can be refused at every point**, and has an attempt left only if it gets the link after
that, or hears that a pause is over. -/
theorem Call.refusable (hdelay : 0 < policy.delay) (x : Call) :
    Along (Refusable x.given) [] (x.talk policy) := by
  cases x with
  | request r =>
      refine refusable_ask ((winds_talk policy (.request r)).mono (Nat.zero_le 1) fun _ ha => ha)
        (fun closed hadmits => ?_) fun closed => ?_
      · obtain rfl : closed = true := hadmits
        exact .inl rfl
      · cases closed with
        | true => exact refusable_done (.inl rfl)
        | false =>
            refine refusable_ask ?_ (fun _ _ => winds_tryRequest hdelay _) fun _ =>
              refusable_tryRequest hdelay _
            exact winds_ask (fun _ hq => nomatch hq) (fun _ hq => nomatch hq) fun _ _ =>
              winds_tryRequest hdelay _
  | close =>
      have hrelease (k : Nat) : Winds (Call.given .close) k [] (ask .release) :=
        winds_ask (fun _ hq => nomatch hq) (fun _ hq => nomatch hq) fun _ _ => .inl rfl
      have hdisconnect (k : Nat) : Winds (Call.given .close) k [] (ask .disconnect >>= fun _ =>
          ask .release) :=
        winds_ask (fun _ hq => nomatch hq) (fun _ hq => nomatch hq) fun _ _ => hrelease k
      have hacquire (k : Nat) : Winds (Call.given .close) k [] (ask .acquire >>= fun _ =>
          ask .disconnect >>= fun _ => ask .release) :=
        winds_ask (fun _ hq => nomatch hq) (fun _ hq => nomatch hq) fun _ _ => hdisconnect k
      refine refusable_ask ((winds_talk policy .close).mono (Nat.zero_le 1) fun _ ha => ha)
        (fun _ _ => hacquire 0) fun _ => ?_
      refine refusable_ask (hacquire 1) (fun _ _ => hdisconnect 1) fun _ => ?_
      refine refusable_ask (hdisconnect 1) (fun _ _ => hrelease 0) fun _ => ?_
      exact refusable_ask (hrelease 1) (fun _ _ => .inl rfl) fun _ => refusable_done (.inl rfl)

end

end Client

end ChargeController
