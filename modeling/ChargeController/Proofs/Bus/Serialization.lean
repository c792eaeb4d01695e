import ChargeController.Bus.Client
import ChargeController.Bus.Link
import ChargeController.Proofs.Dialogue.Turns
import Mathlib.Data.List.Nodup

/-!
# Requests one after the other

Any number of callers share a client: they send requests, close it, and may be dropped wherever
they wait.  The line at the link puts their requests one after the other.

* `Client.service` — what the link says to the callers of a client.
* `Client.Queued` — who is in line: the caller in its turn, at the front, and those who wait.
* **`requests_serialized`** — attempts never overlap and those of one request are not interrupted;
  the line is served in the order in which the callers came.
-/

namespace ChargeController

/-! ## The line -/

namespace Link

variable {l : Link} {n m : Nat}

lemma mem_line_acquire : m ∈ (l.acquire n).line ↔ m ∈ l.line ∨ m = n := by
  simp only [acquire, List.mem_append, List.mem_singleton]

lemma mem_line_leave : m ∈ (l.leave n).line ↔ m ∈ l.line ∧ m ≠ n := by
  simp only [leave, List.mem_filter, bne_iff_ne]

lemma holder_acquire (h : l.holder = some m) : (l.acquire n).holder = some m := by
  simp only [holder, acquire, List.head?_append]
  rw [show l.line.head? = some m from h]
  rfl

lemma holder_leave (h : l.holder = some m) (hne : m ≠ n) : (l.leave n).holder = some m := by
  obtain ⟨rest, hline⟩ := List.head?_eq_some_iff.mp h
  simp only [holder, leave, hline]
  rw [List.filter_cons_of_pos (by simpa using hne)]
  rfl

end Link

namespace Client

open Dialogue Callers

/-! ## Callers of a client -/

/-- What a caller wants of a client. -/
inductive Call where
  | request (r : Request)
  | close

/-- What a caller gets. -/
def Call.Value : Call → Type
  | .request _ => Answer
  | .close => Unit

/-- What a caller does. -/
def Call.talk (policy : Retries) : (x : Call) → Talk x.Value
  | .request r => Client.call policy r
  | .close => Client.close

/-- What the link says.  An attempt may end in any way and take any time; only in a client that has
been closed it may be broken off, and so may a pause. -/
def service : Service Link Ask Reply where
  asked l n
    | .acquire => l.acquire n
    | _ => l
  allows l n
    | .isClosed, closed => closed = l.closed
    | .close, _ => True
    | .acquire, _ => l.holder = some n
    | .attempt _, outcome => Option.isNone outcome = true → l.closed = true
    | .rest _, rested => Option.isNone rested = true → l.closed = true
    | .disconnect, _ => True
    | .release, _ => True
  replied l n
    | .close => l.close
    | .release => l.leave n
    | _ => l
  waits
    | .acquire => true
    | .attempt _ => true
    | .rest _ => true
    | .disconnect => true
    | _ => false
  dropped l n := l.leave n

/-- The turn of a caller: from getting the link to giving it back. -/
def turn : Turn Ask Reply where
  begins
    | .acquire, _ => true
    | _, _ => false
  ends
    | .release => true
    | _ => false
  needs
    | .attempt _ => true
    | .disconnect => true
    | _ => false

/-! ## Good manners -/

/-- Every attempt is made in the turn. -/
lemma orderly_tryRequest {α : Type} {delay : Nat} {r : Request} {f : Answer → Talk α}
    (hf : ∀ answer, turn.Orderly (f answer) true) (more : Nat) :
    turn.Orderly (tryRequest delay r more >>= f) true := by
  induction more with
  | zero =>
      rw [tryRequest]
      refine Turn.orderly_ask (t := turn) (q := .attempt r) (fun _ => rfl) rfl
        (fun _ => rfl) fun outcome => ?_
      match outcome with
      | none => exact hf _
      | some (.ok data) => exact hf _
      | some (.error fault) => exact hf _
  | succ more ih =>
      rw [tryRequest]
      refine Turn.orderly_ask (t := turn) (q := .attempt r) (fun _ => rfl) rfl
        (fun _ => rfl) fun outcome => ?_
      match outcome with
      | none => exact hf _
      | some (.ok data) => exact hf _
      | some (.error fault) =>
          refine Turn.orderly_ask (t := turn) (q := .rest delay) (fun _ => rfl) rfl
            (fun _ => rfl) fun rested => ?_
          match rested with
          | none => exact hf _
          | some () => exact ih

theorem Call.orderly (policy : Retries) (x : Call) : turn.Orderly (x.talk policy) false := by
  cases x with
  | request r =>
      refine Turn.orderly_ask (t := turn) (q := .isClosed) (fun h => nomatch h) rfl
        (fun _ => rfl) fun closed => ?_
      cases closed with
      | true => rfl
      | false =>
          refine Turn.orderly_begin (t := turn) (q := .acquire) rfl rfl fun _ => ?_
          exact orderly_tryRequest (f := fun answer => ask .release >>= fun _ => pure answer)
            (fun _ => Turn.orderly_end (t := turn) (q := .release) rfl fun _ => ⟨_, rfl⟩) _
  | close =>
      refine Turn.orderly_ask (t := turn) (q := .close) (fun h => nomatch h) rfl
        (fun _ => rfl) fun _ => ?_
      refine Turn.orderly_begin (t := turn) (q := .acquire) rfl rfl fun _ => ?_
      refine Turn.orderly_ask (t := turn) (q := .disconnect) (fun _ => rfl) rfl
        (fun _ => rfl) fun _ => ?_
      exact Turn.orderly_end (t := turn) (q := .release) rfl fun _ => ⟨_, rfl⟩

/-! ## The line and the turns -/

section

variable {policy : Retries} {calls : Nat → Call} {l : Link} {n m : Nat} {q : Ask}
  {h h' : List (Event Ask Reply)} {e : Event Ask Reply}
  {c c' : Callers Link Ask Reply fun n => (calls n).Value}

lemma line_asked (hq : q ≠ .acquire) : service.asked l n q = l := by
  cases q with
  | acquire => exact absurd rfl hq
  | isClosed => rfl
  | close => rfl
  | attempt r => rfl
  | rest t => rfl
  | disconnect => rfl
  | release => rfl

lemma line_replied (hq : q ≠ .release) : (service.replied l n q).line = l.line := by
  cases q with
  | release => exact absurd rfl hq
  | isClosed => rfl
  | close => rfl
  | acquire => rfl
  | attempt r => rfl
  | rest t => rfl
  | disconnect => rfl

lemma begins_iff {r : Reply q} : turn.begins q r = true ↔ q = .acquire := by
  cases q <;> simp [turn]

lemma ends_iff : turn.ends q = true ↔ q = .release := by
  cases q <;> simp [turn]

/-- Who is in line: a caller in its turn is at the front, and all others wait for the link. -/
structure Queued (h : List (Event Ask Reply))
    (c : Callers Link Ask Reply fun n => (calls n).Value) : Prop where
  nodup : c.shared.line.Nodup
  holder : ∀ n, turn.inTurn n h = true → c.shared.holder = some n
  waits : ∀ n, n ∈ c.shared.line →
    turn.inTurn n h = true ∨ ∃ next, c.stand n = .waiting .acquire next

namespace Queued

lemma unique (hqueued : Queued h c) (hn : turn.inTurn n h = true) (hm : turn.inTurn m h = true) :
    n = m :=
  Option.some.inj ((hqueued.holder n hn).symm.trans (hqueued.holder m hm))

lemma ask (hqueued : Queued h c) (hfits : ∀ n, turn.Fits (c.stand n) (turn.inTurn n h))
    {next : Reply q → Talk (calls n).Value} (here : c.stand n = .going (.ask q next)) :
    Queued (h ++ [.asks n q])
      ⟨service.asked c.shared n q, Function.update c.stand n (.waiting q next)⟩ := by
  have hturn (m : Nat) : turn.inTurn m (h ++ [.asks n q]) = turn.inTurn m h := Turn.inTurn_concat ..
  have hfar : ∀ m ∈ c.shared.line, turn.inTurn m h = true ∨
      ∃ next', Function.update c.stand n (.waiting q next) m = .waiting .acquire next' := by
    intro m hm
    refine (hqueued.waits m hm).imp_right ?_
    rintro ⟨next', hwaiting⟩
    have hne : m ≠ n := by
      rintro rfl
      cases here.symm.trans hwaiting
    exact ⟨next', by rw [Function.update_of_ne hne, hwaiting]⟩
  by_cases hq : q = .acquire
  · subst hq
    have hnot : n ∉ c.shared.line := by
      intro hmem
      have hout : turn.inTurn n h = false := by
        have hfit := hfits n
        rw [here] at hfit
        exact (hfit.2.2 rfl ()).1 rfl
      rcases hqueued.waits n hmem with hin | ⟨next', hwaiting⟩
      · cases hout.symm.trans hin
      · cases here.symm.trans hwaiting
    refine ⟨?_, fun m hm => ?_, fun m hm => ?_⟩
    · have hnodup := List.Nodup.concat hnot hqueued.nodup
      rwa [List.concat_eq_append] at hnodup
    · rw [hturn] at hm
      exact Link.holder_acquire (hqueued.holder m hm)
    · rw [hturn]
      rcases Link.mem_line_acquire.mp hm with hm | rfl
      · exact hfar m hm
      · exact .inr ⟨next, Function.update_self ..⟩
  · rw [line_asked hq]
    refine ⟨hqueued.nodup, fun m hm => ?_, fun m hm => ?_⟩
    · rw [hturn] at hm
      exact hqueued.holder m hm
    · rw [hturn]
      exact hfar m hm

/-- Whoever leaves, in its turn or waiting, leaves the others as they were. -/
lemma leave (hqueued : Queued h c) (he : e.caller = n)
    (hout : turn.inTurn n (h ++ [e]) = false) (hline : c'.shared.line = (c.shared.leave n).line)
    (hstand : ∀ m, m ≠ n → c'.stand m = c.stand m) : Queued (h ++ [e]) c' := by
  have hturn (m : Nat) (hm : m ≠ n) : turn.inTurn m (h ++ [e]) = turn.inTurn m h := by
    rw [Turn.inTurn_concat, Turn.after_of_ne (he ▸ hm.symm)]
  have hne (m : Nat) (hm : turn.inTurn m (h ++ [e]) = true) : m ≠ n := by
    rintro rfl
    cases hout.symm.trans hm
  refine ⟨hline ▸ hqueued.nodup.filter _, fun m hm => ?_, fun m hm => ?_⟩
  · have hm' := hne m hm
    rw [hturn m hm'] at hm
    have hholder := Link.holder_leave (hqueued.holder m hm) hm'
    rwa [Link.holder, ← hline] at hholder
  · rw [hline] at hm
    obtain ⟨hm, hm'⟩ := Link.mem_line_leave.mp hm
    rw [hturn m hm', hstand m hm']
    exact hqueued.waits m hm

lemma tell (hqueued : Queued h c)
    {next : Reply q → Talk (calls n).Value} {r : Reply q} (here : c.stand n = .waiting q next)
    (allowed : service.allows c.shared n q r) :
    Queued (h ++ [.told n ⟨q, r⟩])
      ⟨service.replied c.shared n q, Function.update c.stand n (.going (next r))⟩ := by
  by_cases hrelease : q = .release
  · subst hrelease
    refine hqueued.leave (n := n) rfl ?_ rfl fun m hm => Function.update_of_ne hm ..
    rw [Turn.inTurn_concat, Turn.after_told_self]
    rfl
  have hends : turn.ends q = false :=
    Bool.eq_false_iff.mpr fun hends => hrelease (ends_iff.mp hends)
  have hfar (m : Nat) (hm : m ≠ n) :
      turn.inTurn m (h ++ [.told n ⟨q, r⟩]) = turn.inTurn m h := by
    rw [Turn.inTurn_concat, Turn.after_of_ne (e := .told n ⟨q, r⟩) hm.symm]
  have hnear : turn.inTurn n (h ++ [.told n ⟨q, r⟩]) = (turn.begins q r || turn.inTurn n h) := by
    rw [Turn.inTurn_concat, Turn.after_told_self, hends]
    rfl
  have hline := line_replied (l := c.shared) (n := n) hrelease
  refine ⟨hline ▸ hqueued.nodup, fun m hm => ?_, fun m hm => ?_⟩
  · rw [Link.holder, hline]
    by_cases hmn : m = n
    · subst hmn
      rw [hnear, Bool.or_eq_true] at hm
      rcases hm with hbegins | hm
      · obtain rfl := begins_iff.mp hbegins
        exact allowed
      · exact hqueued.holder m hm
    · rw [hfar m hmn] at hm
      exact hqueued.holder m hm
  · rw [hline] at hm
    by_cases hmn : m = n
    · subst hmn
      rw [hnear, Bool.or_eq_true]
      rcases hqueued.waits m hm with hin | ⟨next', hwaiting⟩
      · exact .inl (.inr hin)
      · cases here.symm.trans hwaiting
        exact .inl (.inl rfl)
    · rw [hfar m hmn]
      dsimp only
      rw [Function.update_of_ne hmn]
      exact hqueued.waits m hm

end Queued

/-- **One event keeps the line in order.** -/
theorem Queued.step (hqueued : Queued h c) (hfits : ∀ n, turn.Fits (c.stand n) (turn.inTurn n h))
    (step : Step service c e c') : Queued (h ++ [e]) c' := by
  cases step with
  | ask here => exact hqueued.ask hfits here
  | tell here allowed => exact hqueued.tell here allowed
  | @drop n q next here _ =>
      refine hqueued.leave (n := n) rfl ?_ rfl fun m hm => Function.update_of_ne hm ..
      rw [Turn.inTurn_concat, Turn.after_dropped_self]

/-- **The line is in order throughout any run.** -/
theorem Queued.run (run : Run service (fresh Link.free fun n => (calls n).talk policy) h c) :
    Queued h c := by
  induction run with
  | start => exact ⟨List.nodup_nil, fun n hn => (nomatch hn), fun n hn => (nomatch hn)⟩
  | next before step ih => exact ih.step (before.fits fun n => (calls n).orderly policy) step

/-! ## First come, first served -/

/-- Callers stand in line in this order, unless one of them is over. -/
def Lined (ns : List Nat) (c : Callers Link Ask Reply fun n => (calls n).Value) : Prop :=
  ns.Sublist c.shared.line ∨ ∃ n ∈ ns, (c.stand n).IsOver

/-- What an event does to the line: nothing, or its caller joins at the end, or is over and
leaves. -/
lemma line_step (hfits : ∀ n, turn.Fits (c.stand n) (turn.inTurn n h))
    (step : Step service c e c') :
    c'.shared.line = c.shared.line ∨ c'.shared.line = (c.shared.acquire e.caller).line ∨
      c'.shared.line = (c.shared.leave e.caller).line ∧ (c'.stand e.caller).IsOver := by
  cases step with
  | @ask n q next here =>
      by_cases hq : q = .acquire
      · subst hq
        exact .inr (.inl rfl)
      · exact .inl (congrArg Link.line (line_asked hq))
  | @tell n q next r here _ =>
      by_cases hq : q = .release
      · subst hq
        have hfit := hfits n
        rw [here] at hfit
        obtain ⟨a, ha⟩ := (hfit.2.1 rfl).2 r
        refine .inr (.inr ⟨rfl, ?_⟩)
        change (Function.update c.stand n (.going (next r)) n).IsOver
        rw [Function.update_self, ha]
        exact trivial
      · exact .inl (line_replied hq)
  | @drop n q next here _ =>
      refine .inr (.inr ⟨rfl, ?_⟩)
      change (Function.update c.stand n .gone n).IsOver
      rw [Function.update_self]
      exact trivial

lemma Lined.step {ns : List Nat} (hlined : Lined ns c)
    (hfits : ∀ n, turn.Fits (c.stand n) (turn.inTurn n h)) (step : Step service c e c') :
    Lined ns c' := by
  rcases hlined with hsub | ⟨n, hn, hover⟩
  · rcases line_step hfits step with hsame | hjoined | ⟨hleft, hover⟩
    · exact .inl (hsame ▸ hsub)
    · refine .inl ?_
      rw [hjoined]
      exact hsub.trans (List.sublist_append_left _ _)
    · by_cases hmem : e.caller ∈ ns
      · exact .inr ⟨_, hmem, hover⟩
      · refine .inl ?_
        have hkept : ns.filter (· != e.caller) = ns := by
          refine List.filter_eq_self.mpr fun n hn => ?_
          rw [bne_iff_ne]
          rintro rfl
          exact hmem hn
        rw [hleft, ← hkept]
        exact hsub.filter _
  · refine .inr ⟨n, hn, ?_⟩
    rwa [step.stand_of_ne (step.caller_ne hover)]

/-- **The line keeps its order.** -/
theorem Lined.run {ns : List Nat}
    (before : Run service (fresh Link.free fun n => (calls n).talk policy) h c)
    (run : Run service c h' c') (hlined : Lined ns c) : Lined ns c' := by
  induction run with
  | start => exact hlined
  | next upTo step ih =>
      exact ih.step ((before.trans upTo).fits fun n => (calls n).orderly policy) step

/-! ## Requests one after the other -/

variable (policy calls) in
/-- A call has returned, or was dropped. -/
def Over (n : Nat) (h : List (Event Ask Reply)) : Prop :=
  (∃ value, Ends ((calls n).talk policy) (own n h) value) ∨ .dropped n ∈ h

lemma over_of_isOver (run : Run service (fresh Link.free fun n => (calls n).talk policy) h c)
    (hover : (c.stand n).IsOver) : Over policy calls n h :=
  (run.done_or_dropped (fun hgone => nomatch hgone) hover).imp_left fun ⟨value, hdone⟩ =>
    ⟨value, (run.ends_iff rfl).mpr hdone⟩

/-- Whether a question uses the link: an attempt, or ending the connection. -/
def UsesLink (q : Ask) : Prop :=
  (∃ r, q = .attempt r) ∨ q = .disconnect

lemma UsesLink.needs (h : UsesLink q) : turn.needs q = true := by
  rcases h with ⟨r, rfl⟩ | rfl
  · rfl
  · rfl

/-- A use of the link begins in a turn, and its caller is not waiting for anything. -/
lemma turn_of_use {s : List (Event Ask Reply)}
    (run : Run service (fresh Link.free fun n => (calls n).talk policy) (h ++ .asks n q :: s) c)
    (huse : UsesLink q) : ∃ before next,
      Run service (fresh Link.free fun n => (calls n).talk policy) h before ∧
        before.stand n = .going (.ask q next) ∧ turn.inTurn n h = true := by
  obtain ⟨before, after, hbefore, step, -⟩ := run.at
  cases step with
  | @ask n q next here =>
      exact ⟨before, next, hbefore, here,
        hbefore.inTurn_of_needs (fun n => (calls n).orderly policy) (.inl here) huse.needs⟩

/-- Every use of the link is over when the next one begins. -/
theorem uses_apart {p s : List (Event Ask Reply)} {q' : Ask}
    (run : Run service (fresh Link.free fun n => (calls n).talk policy)
      (h ++ .asks n q' :: p ++ .asks m q :: s) c) (huse : UsesLink q) (huse' : UsesLink q') :
    (∃ r, .told n ⟨q', r⟩ ∈ p) ∨ .dropped n ∈ p := by
  by_contra hnot
  obtain ⟨htold, hdropped⟩ := not_or.mp hnot
  obtain ⟨before, next, hbefore, hgoing, hturn⟩ := turn_of_use run huse
  obtain ⟨first, after, hfirst, step, hafter⟩ := hbefore.at
  cases step with
  | @ask n q' next' here =>
      obtain ⟨hwaits, -⟩ := hafter.waiting (Function.update_self ..) (not_exists.mp htold) hdropped
      have hturn' := hbefore.inTurn_of_needs (fun n => (calls n).orderly policy) (.inr hwaits)
        huse'.needs
      obtain rfl := (Queued.run hbefore).unique hturn hturn'
      cases hgoing.symm.trans hwaits

/-- A call that has used the link is over when another one uses it. -/
theorem over_of_uses {p s : List (Event Ask Reply)} {q' : Ask}
    (run : Run service (fresh Link.free fun n => (calls n).talk policy) (p ++ .asks m q :: s) c)
    (huse : UsesLink q) (huse' : UsesLink q') (hmem : .asks n q' ∈ p) (hne : n ≠ m) :
    Over policy calls n p ∧ ∀ e ∈ s, e.caller ≠ n := by
  have horderly := fun n => (calls n).orderly policy
  obtain ⟨before, after, hbefore, step, hafter⟩ := run.at
  obtain ⟨-, -, -, -, hturn⟩ := turn_of_use run huse
  obtain ⟨p₁, p₂, rfl⟩ := List.append_of_mem hmem
  obtain ⟨-, -, -, -, hturn'⟩ := turn_of_use hbefore huse'
  obtain ⟨first, second, hfirst, one, hsecond⟩ := hbefore.at
  have hturn₁ : turn.inTurn n (p₁ ++ [.asks n q']) = true := by
    rw [Turn.inTurn_concat]
    exact hturn'
  have hstill := Run.inTurn_or_over horderly (hfirst.next one) hsecond hturn₁
  rw [List.append_assoc, List.singleton_append] at hstill
  have hover : (before.stand n).IsOver :=
    hstill.resolve_left fun hin => hne ((Queued.run hbefore).unique hin hturn)
  refine ⟨over_of_isOver hbefore hover, (hafter.over ?_).2⟩
  rwa [step.stand_of_ne (step.caller_ne hover)]

/-- Who came first has been served, or was dropped, when the next one is served. -/
theorem over_of_came_first {p₁ p₂ p₃ s : List (Event Ask Reply)}
    (run : Run service (fresh Link.free fun n => (calls n).talk policy)
      (p₁ ++ .asks n .acquire :: p₂ ++ .asks m .acquire :: p₃ ++ .told m ⟨.acquire, ()⟩ :: s) c)
    (hne : n ≠ m) :
    Over policy calls n (p₁ ++ .asks n .acquire :: p₂ ++ .asks m .acquire :: p₃) := by
  obtain ⟨before, after, hbefore, step, -⟩ := run.at
  obtain ⟨second, third, hsecond, ask, hthird⟩ := hbefore.at
  obtain ⟨first, middle, hfirst, came, hmiddle⟩ := hsecond.at
  have hbehind : Lined [n] middle := by
    cases came with
    | ask _ => exact .inl (List.sublist_append_right first.shared.line [n])
  have hcame := hfirst.next came
  have hboth : Lined [n, m] third := by
    rcases hbehind.run hcame hmiddle with hsub | ⟨k, hk, hover⟩
    · cases ask with
      | ask _ => exact .inl (hsub.append_right [m])
    · obtain rfl := List.mem_singleton.mp hk
      refine .inr ⟨k, List.mem_cons_self, ?_⟩
      rwa [ask.stand_of_ne (ask.caller_ne hover)]
  rcases hboth.run (hsecond.next ask) hthird with hsub | ⟨k, hk, hover⟩
  · cases step with
    | tell _ allowed =>
        obtain ⟨rest, hline⟩ := List.head?_eq_some_iff.mp allowed
        have hnodup := (Queued.run hbefore).nodup
        rw [hline] at hsub hnodup
        have hmem : m ∈ rest := (hsub.of_cons_of_ne hne).subset (by simp)
        exact absurd hmem (List.nodup_cons.mp hnodup).1
  · rcases List.mem_pair.mp hk with rfl | rfl
    · exact over_of_isOver hbefore hover
    · exact absurd rfl (step.caller_ne hover)

/-- **Requests are sent one after the other.**  Whatever a number of callers want of a client,
however they get in each other's way and whoever is dropped:

* when an attempt begins, or the connection is ended, every earlier attempt is over; and every other
  caller that has made one has returned or was dropped, and is not heard of again;
* the link is given to the callers in the order in which they came for it. -/
theorem requests_serialized (policy : Retries) (calls : Nat → Call) {h : List (Event Ask Reply)}
    {c : Callers Link Ask Reply fun n => (calls n).Value}
    (run : Run service (fresh Link.free fun n => (calls n).talk policy) h c) :
    (∀ p m q s, h = p ++ .asks m q :: s → UsesLink q →
      (∀ p₁ n q' p₂, p = p₁ ++ .asks n q' :: p₂ → UsesLink q' →
        (∃ r, .told n ⟨q', r⟩ ∈ p₂) ∨ .dropped n ∈ p₂) ∧
      (∀ n q', .asks n q' ∈ p → UsesLink q' → n ≠ m →
        Over policy calls n p ∧ ∀ e ∈ s, e.caller ≠ n)) ∧
    (∀ p₁ n p₂ m p₃ s,
      h = p₁ ++ .asks n .acquire :: p₂ ++ .asks m .acquire :: p₃ ++ .told m ⟨.acquire, ()⟩ :: s →
      n ≠ m → Over policy calls n (p₁ ++ .asks n .acquire :: p₂ ++ .asks m .acquire :: p₃)) := by
  refine ⟨?_, ?_⟩
  · rintro p m q s rfl huse
    refine ⟨?_, fun n q' hmem huse' hne => over_of_uses run huse huse' hmem hne⟩
    rintro p₁ n q' p₂ rfl huse'
    exact uses_apart run huse huse'
  · rintro p₁ n p₂ m p₃ s rfl hne
    exact over_of_came_first run hne

end

instance (l : Link) (n : Nat) (q : Ask) (r : Reply q) : Decidable (service.allows l n q r) :=
  match q, r with
  | .isClosed, (closed : Bool) => inferInstanceAs (Decidable (closed = l.closed))
  | .close, _ => inferInstanceAs (Decidable True)
  | .acquire, _ => inferInstanceAs (Decidable (l.holder = some n))
  | .attempt _, (outcome : Option Answer) =>
      inferInstanceAs (Decidable (Option.isNone outcome = true → l.closed = true))
  | .rest _, (rested : Option Unit) =>
      inferInstanceAs (Decidable (Option.isNone rested = true → l.closed = true))
  | .disconnect, _ => inferInstanceAs (Decidable True)
  | .release, _ => inferInstanceAs (Decidable True)

/-- Three callers read the battery voltage, and a fourth one closes the client. -/
def fourCalls : Nat → Call
  | 3 => .close
  | _ => .request (.read .input 0x3104 1)

/-- The first of four callers needs a second attempt, while two more come for the link; one of them
is dropped where it waits. -/
def firstRequest : List (Event Ask Reply) :=
  let reading := Request.read .input 0x3104 1
  [.asks 0 .isClosed, .told 0 ⟨.isClosed, false⟩, .asks 0 .acquire, .told 0 ⟨.acquire, ()⟩,
    .asks 0 (.attempt reading),
    .asks 1 .isClosed, .told 1 ⟨.isClosed, false⟩, .asks 1 .acquire,
    .asks 2 .isClosed, .told 2 ⟨.isClosed, false⟩, .asks 2 .acquire,
    .told 0 ⟨.attempt reading, some (.error (.timeout 500))⟩, .asks 0 (.rest 10), .dropped 1,
    .told 0 ⟨.rest 10, some ()⟩, .asks 0 (.attempt reading),
    .told 0 ⟨.attempt reading, some (.ok [0x05, 0x14])⟩, .asks 0 .release, .told 0 ⟨.release, ()⟩,
    .told 2 ⟨.acquire, ()⟩]

/-- The attempt of the third caller is broken off by the fourth one, who then ends the
connection. -/
def secondRequest : List (Event Ask Reply) :=
  let reading := Request.read .input 0x3104 1
  [.asks 3 .close, .told 3 ⟨.close, ()⟩, .asks 3 .acquire, .told 2 ⟨.attempt reading, none⟩,
    .asks 2 .release, .told 2 ⟨.release, ()⟩, .told 3 ⟨.acquire, ()⟩, .asks 3 .disconnect,
    .told 3 ⟨.disconnect, ()⟩, .asks 3 .release, .told 3 ⟨.release, ()⟩]

/-- A second attempt, a caller dropped in the line and a closing: the first request is over when the
next one is tried, and that one when the connection is ended. -/
theorem one_after_the_other :
    let busy := firstRequest ++ .asks 2 (.attempt (.read .input 0x3104 1)) :: secondRequest
    (∃ c, Run service (fresh Link.free fun n => (fourCalls n).talk ⟨2, 10⟩) busy c) ∧
      (∀ e ∈ secondRequest, e.caller ≠ 0) ∧ Over ⟨2, 10⟩ fourCalls 0 firstRequest ∧
      Over ⟨2, 10⟩ fourCalls 2 (busy.take 27) := by
  intro busy
  have hplayed : (replay? service busy
      (fresh Link.free fun n => (fourCalls n).talk ⟨2, 10⟩)).isSome = true := by decide +kernel
  obtain ⟨c, hc⟩ := Option.isSome_iff_exists.mp hplayed
  have run := run_of_replay hc
  obtain ⟨happart, hserved⟩ := requests_serialized ⟨2, 10⟩ fourCalls run
  obtain ⟨-, hover⟩ := happart _ _ _ _ rfl (.inl ⟨_, rfl⟩)
  obtain ⟨hfirst, hnone⟩ := hover 0 (.attempt (.read .input 0x3104 1)) (by simp [firstRequest])
    (.inl ⟨_, rfl⟩) (by decide)
  refine ⟨⟨c, run⟩, hnone, hfirst, ?_⟩
  exact hserved (firstRequest.take 10) 2 ((busy.drop 11).take 12) 3 ((busy.drop 24).take 3) _ rfl
    (by decide)

end Client

end ChargeController
