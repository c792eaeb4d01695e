import ChargeController.Proofs.Dialogue.Transcript
import Mathlib.Logic.Function.Basic

/-!
# Callers that may be dropped

Any number of callers talk to the same service, each in a dialogue of its own.  Between a question
and its reply any time may pass, in which the others go on; and a caller who waits for a reply may
be dropped there and is not heard of again.  Nothing is said about who goes on when, so a run is
any interleaving of its callers.

* `Service` — what a question, a reply and a dropping change, and which replies can be given.
* `Run` — the events of a run, oldest first.
* **`Run.leads`** — what a caller was told is a transcript of its dialogue, up to where it stands.
* **`Run.over`** — a caller who has come to its end, or was dropped, is not heard of again.
* `replay?` — the run with given events, if there is one.
-/

namespace ChargeController

/-- What stands behind a number of callers. -/
structure Service (S Ask : Type) (Reply : Ask → Type) where
  /-- What a question changes as soon as it is asked. -/
  asked : S → Nat → Ask → S
  allows : S → Nat → (q : Ask) → Reply q → Prop
  /-- What a reply changes. -/
  replied : S → Nat → Ask → S
  /-- Whether a caller waits for the reply, so that it can be dropped meanwhile. -/
  waits : Ask → Bool
  dropped : S → Nat → S

/-- Something that happens to a caller. -/
inductive Event (Ask : Type) (Reply : Ask → Type) where
  | asks (caller : Nat) (question : Ask)
  | told (caller : Nat) (exchange : Exchange Ask Reply)
  | dropped (caller : Nat)

/-- Where a caller stands: at a point of its dialogue, between a question and its reply, or
nowhere. -/
inductive Stand (Ask : Type) (Reply : Ask → Type) (α : Type) where
  | going (talk : Dialogue Ask Reply α)
  | waiting (question : Ask) (next : Reply question → Dialogue Ask Reply α)
  | gone

/-- The state of a service, and where each of its callers stands. -/
structure Callers (S Ask : Type) (Reply : Ask → Type) (α : Nat → Type) where
  shared : S
  stand : ∀ n, Stand Ask Reply (α n)

namespace Event

variable {Ask : Type} {Reply : Ask → Type}

def caller : Event Ask Reply → Nat
  | asks n _ => n
  | told n _ => n
  | dropped n => n

/-- What somebody was told. -/
def told? : Event Ask Reply → Option (Exchange Ask Reply)
  | told _ e => some e
  | _ => none

/-- What a caller was told. -/
def toldTo? (n : Nat) : Event Ask Reply → Option (Exchange Ask Reply)
  | told m e => if m = n then some e else none
  | _ => none

end Event

/-- Whether a caller is done or dropped. -/
def Stand.IsOver {Ask : Type} {Reply : Ask → Type} {α : Type} : Stand Ask Reply α → Prop
  | .going (.done _) => True
  | .going (.ask _ _) => False
  | .waiting _ _ => False
  | .gone => True

/-- What a caller who is done was given. -/
def Stand.value? {Ask : Type} {Reply : Ask → Type} {α : Type} : Stand Ask Reply α → Option α
  | .going (.done a) => some a
  | _ => none

/-- Whether a caller stands at a point of its dialogue: it goes on from there, or asks the question
of this point, or was dropped while it did. -/
def Stand.IsAt {Ask : Type} {Reply : Ask → Type} {α : Type} (d : Dialogue Ask Reply α) :
    Stand Ask Reply α → Prop
  | .going d' => d = d'
  | .waiting q next => d = .ask q next
  | .gone => ∃ q next, d = .ask q next

namespace Callers

open Dialogue

variable {S Ask : Type} {Reply : Ask → Type} {α : Nat → Type} {service : Service S Ask Reply}

/-- Callers who have not asked anything yet. -/
def fresh (s : S) (talk : ∀ n, Dialogue Ask Reply (α n)) : Callers S Ask Reply α :=
  ⟨s, fun n => .going (talk n)⟩

/-- One event. -/
inductive Step (service : Service S Ask Reply) :
    Callers S Ask Reply α → Event Ask Reply → Callers S Ask Reply α → Prop
  | ask {c : Callers S Ask Reply α} {n q next} (here : c.stand n = .going (.ask q next)) :
      Step service c (.asks n q)
        ⟨service.asked c.shared n q, Function.update c.stand n (.waiting q next)⟩
  | tell {c : Callers S Ask Reply α} {n q next r} (here : c.stand n = .waiting q next)
      (allowed : service.allows c.shared n q r) :
      Step service c (.told n ⟨q, r⟩)
        ⟨service.replied c.shared n q, Function.update c.stand n (.going (next r))⟩
  | drop {c : Callers S Ask Reply α} {n q next} (here : c.stand n = .waiting q next)
      (waits : service.waits q = true) :
      Step service c (.dropped n)
        ⟨service.dropped c.shared n, Function.update c.stand n .gone⟩

/-- Any number of events. -/
inductive Run (service : Service S Ask Reply) (c : Callers S Ask Reply α) :
    List (Event Ask Reply) → Callers S Ask Reply α → Prop
  | start : Run service c [] c
  | next {h c' e c''} (before : Run service c h c') (step : Step service c' e c'') :
      Run service c (h ++ [e]) c''

variable {c c' c'' : Callers S Ask Reply α} {h h' : List (Event Ask Reply)} {e : Event Ask Reply}
  {n : Nat}

/-! ## What a caller was told -/

/-- All that anybody was told. -/
def said (h : List (Event Ask Reply)) : List (Exchange Ask Reply) :=
  h.filterMap Event.told?

@[simp] lemma said_nil : said ([] : List (Event Ask Reply)) = [] :=
  rfl

@[simp] lemma said_append : said (h ++ h') = said h ++ said h' :=
  List.filterMap_append

@[simp] lemma said_asks {m : Nat} {q : Ask} : said (.asks m q :: h) = said h :=
  rfl

@[simp] lemma said_dropped {m : Nat} : said (.dropped m :: h) = said h :=
  rfl

@[simp] lemma said_told {m : Nat} {x : Exchange Ask Reply} : said (.told m x :: h) = x :: said h :=
  rfl

/-- All that a caller was told. -/
def own (n : Nat) (h : List (Event Ask Reply)) : List (Exchange Ask Reply) :=
  h.filterMap (Event.toldTo? n)

@[simp] lemma own_append : own n (h ++ h') = own n h ++ own n h' :=
  List.filterMap_append

@[simp] lemma own_asks {m : Nat} {q : Ask} : own n (.asks m q :: h) = own n h :=
  rfl

@[simp] lemma own_dropped {m : Nat} : own n (.dropped m :: h) = own n h :=
  rfl

@[simp] lemma own_told_self {x : Exchange Ask Reply} : own n (.told n x :: h) = x :: own n h := by
  simp [own, Event.toldTo?]

lemma own_of_ne (hne : e.caller ≠ n) : own n (e :: h) = own n h := by
  cases e with
  | asks m q => rfl
  | dropped m => rfl
  | told m x =>
      have hm : m ≠ n := hne
      simp [own, Event.toldTo?, hm]

lemma mem_own {x : Exchange Ask Reply} : x ∈ own n h ↔ .told n x ∈ h := by
  constructor
  · intro hx
    obtain ⟨e, he, hsome⟩ := List.mem_filterMap.mp hx
    cases e with
    | told m y =>
        simp only [Event.toldTo?, Option.ite_none_right_eq_some, Option.some.injEq] at hsome
        obtain ⟨rfl, rfl⟩ := hsome
        exact he
    | asks m q => cases hsome
    | dropped m => cases hsome
  · intro hx
    exact List.mem_filterMap.mpr ⟨_, hx, by simp [Event.toldTo?]⟩

lemma own_eq_cons {x : Exchange Ask Reply} {xs : List (Exchange Ask Reply)}
    (heq : own n h = x :: xs) : ∃ h₁ h₂, h = h₁ ++ .told n x :: h₂ ∧ own n h₁ = [] ∧
      own n h₂ = xs := by
  obtain ⟨h₁, e, h₂, rfl, hnone, hsome, hrest⟩ := List.filterMap_eq_cons_iff.mp heq
  cases e with
  | told m y =>
      simp only [Event.toldTo?, Option.ite_none_right_eq_some, Option.some.injEq] at hsome
      obtain ⟨rfl, rfl⟩ := hsome
      exact ⟨h₁, h₂, rfl, List.filterMap_eq_nil_iff.mpr hnone, hrest⟩
  | asks m q => cases hsome
  | dropped m => cases hsome

lemma own_eq_append {xs ys : List (Exchange Ask Reply)} (heq : own n h = xs ++ ys) :
    ∃ h₁ h₂, h = h₁ ++ h₂ ∧ own n h₁ = xs ∧ own n h₂ = ys :=
  List.filterMap_eq_append_iff.mp heq

/-! ## Runs -/

lemma Run.single (step : Step service c e c') : Run service c [e] c' :=
  .next .start step

lemma Run.trans (first : Run service c h c') (second : Run service c' h' c'') :
    Run service c (h ++ h') c'' := by
  induction second with
  | start => rwa [List.append_nil]
  | next before step ih =>
      rw [← List.append_assoc]
      exact .next ih step

lemma Run.cut {h₁ h₂ : List (Event Ask Reply)} (run : Run service c (h₁ ++ h₂) c'') :
    ∃ c', Run service c h₁ c' ∧ Run service c' h₂ c'' := by
  generalize heq : h₁ ++ h₂ = h at run
  induction run generalizing h₂ with
  | start =>
      obtain ⟨rfl, rfl⟩ := List.append_eq_nil_iff.mp heq
      exact ⟨c, .start, .start⟩
  | @next h c' e c'' before step ih =>
      rcases List.eq_nil_or_concat h₂ with rfl | ⟨init, last, rfl⟩
      · rw [List.append_nil] at heq
        subst heq
        exact ⟨c'', .next before step, .start⟩
      · rw [List.concat_eq_append, ← List.append_assoc] at heq
        obtain ⟨rfl, hlast⟩ := List.append_inj' heq rfl
        cases hlast
        obtain ⟨middle, hfirst, hsecond⟩ := ih rfl
        rw [List.concat_eq_append]
        exact ⟨middle, hfirst, .next hsecond step⟩

lemma Run.of_single (run : Run service c [e] c') : Step service c e c' := by
  generalize heq : [e] = one at run
  cases run with
  | start => cases heq
  | @next h middle e' _ before step =>
      have hone : [] ++ [e] = h ++ [e'] := heq
      obtain ⟨rfl, hlast⟩ := List.append_inj' hone rfl
      cases hlast
      generalize hnil : ([] : List (Event Ask Reply)) = none at before
      cases before with
      | start => exact step
      | next _ _ => exact absurd hnil.symm (List.append_ne_nil_of_right_ne_nil _ (by simp))

/-- The event at a place of a run, with the states before and after it. -/
lemma Run.at {h₁ h₂ : List (Event Ask Reply)} (run : Run service c (h₁ ++ e :: h₂) c'') :
    ∃ before after, Run service c h₁ before ∧ Step service before e after ∧
      Run service after h₂ c'' := by
  obtain ⟨before, hfirst, hrest⟩ := run.cut
  rw [← List.singleton_append] at hrest
  obtain ⟨after, hone, hsecond⟩ := hrest.cut
  exact ⟨before, after, hfirst, hone.of_single, hsecond⟩

/-- What every event but some keeps is kept by a part of a run without these.  Each event may be
looked at together with all that was before it. -/
theorem Run.keeps {P : List (Event Ask Reply) → Callers S Ask Reply α → Prop}
    {Q : Event Ask Reply → Prop} {first : Callers S Ask Reply α} {past : List (Event Ask Reply)}
    (step : ∀ h c e c', Run service first (past ++ h) c → P h c → ¬ Q e → Step service c e c' →
      P (h ++ [e]) c')
    (before : Run service first past c) (run : Run service c h c') (hP : P [] c)
    (hQ : ∀ e ∈ h, ¬ Q e) : P h c' := by
  induction run with
  | start => exact hP
  | next upTo one ih =>
      refine step _ _ _ _ (before.trans upTo) (ih fun e he => ?_) (hQ _ ?_) one
      · exact hQ e (List.mem_append_left _ he)
      · exact List.mem_append_right _ List.mem_cons_self

/-! ## Where a caller stands -/

lemma Step.stand_of_ne (step : Step service c e c') (hne : e.caller ≠ n) :
    c'.stand n = c.stand n := by
  cases step with
  | ask _ => exact Function.update_of_ne hne.symm _ _
  | tell _ _ => exact Function.update_of_ne hne.symm _ _
  | drop _ _ => exact Function.update_of_ne hne.symm _ _

lemma Step.caller_ne (step : Step service c e c') (hover : (c.stand n).IsOver) : e.caller ≠ n := by
  rintro rfl
  cases step with
  | @ask n q next here =>
      change (c.stand n).IsOver at hover
      rw [here] at hover
      exact hover
  | @tell n q next r here _ =>
      change (c.stand n).IsOver at hover
      rw [here] at hover
      exact hover
  | @drop n q next here _ =>
      change (c.stand n).IsOver at hover
      rw [here] at hover
      exact hover

/-- **A caller who is over is not heard of again.** -/
theorem Run.over (run : Run service c h c') (hover : (c.stand n).IsOver) :
    c'.stand n = c.stand n ∧ ∀ e ∈ h, e.caller ≠ n := by
  induction run with
  | start => exact ⟨rfl, fun _ he => absurd he List.not_mem_nil⟩
  | @next h c₁ e c₂ before step ih =>
      obtain ⟨hstand, hnone⟩ := ih
      have hne : e.caller ≠ n := step.caller_ne (hstand ▸ hover)
      refine ⟨(step.stand_of_ne hne).trans hstand, fun e' he' => ?_⟩
      rcases List.mem_append.mp he' with he' | he'
      · exact hnone e' he'
      · rwa [List.mem_singleton.mp he']

/-- A caller who has not got its reply is still waiting for it, and nothing else was heard of it. -/
lemma Run.waiting {q : Ask} {next : Reply q → Dialogue Ask Reply (α n)} (run : Run service c h c')
    (hwaits : c.stand n = .waiting q next) (htold : ∀ r, .told n ⟨q, r⟩ ∉ h)
    (hdropped : .dropped n ∉ h) : c'.stand n = .waiting q next ∧ ∀ e ∈ h, e.caller ≠ n := by
  induction run with
  | start => exact ⟨hwaits, fun _ he => absurd he List.not_mem_nil⟩
  | @next h c₁ e c₂ before step ih =>
      obtain ⟨hstand, hnone⟩ := ih (fun r hr => htold r (List.mem_append_left _ hr))
        fun hd => hdropped (List.mem_append_left _ hd)
      have hne : e.caller ≠ n := by
        rintro rfl
        cases step with
        | ask here =>
            have hcontra := here.symm.trans hstand
            cases hcontra
        | @tell m q' next' r here allowed =>
            have hsame := here.symm.trans hstand
            cases hsame
            exact htold r (List.mem_append_right _ List.mem_cons_self)
        | drop here _ => exact hdropped (List.mem_append_right _ List.mem_cons_self)
      refine ⟨(step.stand_of_ne hne).trans hstand, fun e' he' => ?_⟩
      rcases List.mem_append.mp he' with he' | he'
      · exact hnone e' he'
      · rwa [List.mem_singleton.mp he']

/-- Whoever waits for a reply has asked for it, now or before. -/
lemma Run.asked_or_waiting {q : Ask} {next : Reply q → Dialogue Ask Reply (α n)}
    (run : Run service c h c') (hwaits : c'.stand n = .waiting q next) :
    .asks n q ∈ h ∨ c.stand n = .waiting q next := by
  induction run with
  | start => exact .inr hwaits
  | @next h c₁ e c₂ before step ih =>
      by_cases hne : e.caller ≠ n
      · rw [step.stand_of_ne hne] at hwaits
        exact (ih hwaits).imp_left (List.mem_append_left _)
      cases step with
      | @ask m q' next' here =>
          obtain rfl : m = n := not_not.mp hne
          dsimp only at hwaits
          rw [Function.update_self] at hwaits
          cases hwaits
          exact .inl (List.mem_append_right _ List.mem_cons_self)
      | @tell m q' next' r here _ =>
          obtain rfl : m = n := not_not.mp hne
          dsimp only at hwaits
          rw [Function.update_self] at hwaits
          cases hwaits
      | @drop m q' next' here _ =>
          obtain rfl : m = n := not_not.mp hne
          dsimp only at hwaits
          rw [Function.update_self] at hwaits
          cases hwaits

lemma Step.leads (step : Step service c e c') {d : Dialogue Ask Reply (α n)}
    (hat : (c.stand n).IsAt d) : ∃ d', Leads d (own n [e]) d' ∧ (c'.stand n).IsAt d' := by
  by_cases hne : e.caller ≠ n
  · rw [own_of_ne hne, step.stand_of_ne hne]
    exact ⟨d, .stay d, hat⟩
  cases step with
  | @ask m q next here =>
      obtain rfl : m = n := not_not.mp hne
      rw [here] at hat
      refine ⟨d, .stay d, ?_⟩
      dsimp only
      rw [Function.update_self]
      exact hat
  | @tell m q next r here _ =>
      obtain rfl : m = n := not_not.mp hne
      rw [here] at hat
      obtain rfl : d = .ask q next := hat
      rw [own_told_self]
      refine ⟨next r, .ask (.stay _), ?_⟩
      dsimp only
      rw [Function.update_self]
      exact rfl
  | @drop m q next here _ =>
      obtain rfl : m = n := not_not.mp hne
      rw [here] at hat
      refine ⟨d, .stay d, ?_⟩
      dsimp only
      rw [Function.update_self]
      exact ⟨q, next, hat⟩

/-- **What a caller was told has brought its dialogue to the point where it stands.** -/
theorem Run.leads (run : Run service c h c') {d : Dialogue Ask Reply (α n)}
    (hstart : c.stand n = .going d) : ∃ d', Leads d (own n h) d' ∧ (c'.stand n).IsAt d' := by
  induction run with
  | start => exact ⟨d, .stay d, by rw [hstart]; rfl⟩
  | next before step ih =>
      obtain ⟨middle, hfirst, hat⟩ := ih
      obtain ⟨d', hsecond, hat'⟩ := step.leads hat
      rw [own_append]
      exact ⟨d', leads_append.mpr ⟨middle, hfirst, hsecond⟩, hat'⟩

/-- A caller has come to its end exactly if what it was told is a complete transcript. -/
theorem Run.ends_iff (run : Run service c h c') {d : Dialogue Ask Reply (α n)}
    (hstart : c.stand n = .going d) {a : α n} :
    Ends d (own n h) a ↔ c'.stand n = .going (.done a) := by
  obtain ⟨d', hleads, hat⟩ := run.leads hstart
  constructor
  · intro hends
    obtain rfl := hleads.unique hends
    cases hstand : c'.stand n with
    | going d'' =>
        rw [hstand] at hat
        rw [show Dialogue.done a = d'' from hat]
    | waiting q next =>
        rw [hstand] at hat
        cases hat
    | gone =>
        rw [hstand] at hat
        obtain ⟨q, next, hask⟩ := hat
        cases hask
  · intro hstand
    rw [hstand] at hat
    obtain rfl : d' = .done a := hat
    exact hleads

/-- A caller is nowhere exactly if it was dropped. -/
theorem Run.dropped_iff (run : Run service c h c') (hstart : c.stand n ≠ .gone) :
    .dropped n ∈ h ↔ c'.stand n = .gone := by
  induction run with
  | start => exact ⟨fun hd => absurd hd List.not_mem_nil, fun hg => absurd hg hstart⟩
  | @next h c₁ e c₂ before step ih =>
      rw [List.mem_append, List.mem_singleton]
      by_cases hne : e.caller ≠ n
      · rw [ih, step.stand_of_ne hne]
        refine or_iff_left ?_
        rintro rfl
        exact hne rfl
      · have hgone : c₁.stand n ≠ .gone := by
          intro hgone
          exact hne (step.caller_ne (hgone ▸ trivial))
        rw [or_iff_right fun hd => hgone (ih.mp hd)]
        cases step with
        | @ask m q next here =>
            obtain rfl : m = n := not_not.mp hne
            dsimp only
            rw [Function.update_self]
            exact iff_of_false (fun hd => nomatch hd) fun hs => nomatch hs
        | @tell m q next r here _ =>
            obtain rfl : m = n := not_not.mp hne
            dsimp only
            rw [Function.update_self]
            exact iff_of_false (fun hd => nomatch hd) fun hs => nomatch hs
        | @drop m q next here _ =>
            obtain rfl : m = n := not_not.mp hne
            dsimp only
            rw [Function.update_self]
            exact ⟨fun _ => rfl, fun _ => rfl⟩

/-- A caller who is over is done or was dropped. -/
lemma Run.done_or_dropped (run : Run service c h c') (hstart : c.stand n ≠ .gone)
    (hover : (c'.stand n).IsOver) :
    (∃ a, c'.stand n = .going (.done a)) ∨ .dropped n ∈ h := by
  cases hstand : c'.stand n with
  | going d =>
      rw [hstand] at hover
      cases d with
      | done a => exact .inl ⟨a, rfl⟩
      | ask q next => exact hover.elim
  | waiting q next =>
      rw [hstand] at hover
      exact hover.elim
  | gone => exact .inr ((run.dropped_iff hstart).mpr hstand)

/-! ## Runs with given events -/

section Replay

variable [DecidableEq Ask] [∀ s n q r, Decidable (service.allows s n q r)]

/-- The state after an event, unless it cannot happen. -/
def happen? (service : Service S Ask Reply) [∀ s n q r, Decidable (service.allows s n q r)]
    (c : Callers S Ask Reply α) : Event Ask Reply → Option (Callers S Ask Reply α)
  | .asks n q =>
      match c.stand n with
      | .going (.ask q' next) =>
          if q = q' then
            some ⟨service.asked c.shared n q', Function.update c.stand n (.waiting q' next)⟩
          else none
      | _ => none
  | .told n ⟨q, r⟩ =>
      match c.stand n with
      | .waiting q' next =>
          if hq : q = q' then
            if service.allows c.shared n q r then
              some ⟨service.replied c.shared n q,
                Function.update c.stand n (.going (next (hq ▸ r)))⟩
            else none
          else none
      | _ => none
  | .dropped n =>
      match c.stand n with
      | .waiting q _ =>
          if service.waits q then
            some ⟨service.dropped c.shared n, Function.update c.stand n .gone⟩
          else none
      | _ => none

/-- The state after a number of events, unless one of them cannot happen. -/
def replay? (service : Service S Ask Reply) [∀ s n q r, Decidable (service.allows s n q r)] :
    List (Event Ask Reply) → Callers S Ask Reply α → Option (Callers S Ask Reply α)
  | [], c => some c
  | e :: rest, c => (happen? service c e).bind (replay? service rest)

lemma step_of_happen (hc : happen? service c e = some c') : Step service c e c' := by
  cases e with
  | asks n q =>
      simp only [happen?] at hc
      split at hc
      · next q' next here =>
          split at hc
          · next hq =>
              subst hq
              obtain rfl := Option.some.inj hc
              exact .ask here
          · cases hc
      · cases hc
  | told n x =>
      obtain ⟨q, r⟩ := x
      simp only [happen?] at hc
      split at hc
      · next q' next here =>
          split at hc
          · next hq =>
              subst hq
              split at hc
              · next hallowed =>
                  obtain rfl := Option.some.inj hc
                  exact .tell here hallowed
              · cases hc
          · cases hc
      · cases hc
  | dropped n =>
      simp only [happen?] at hc
      split at hc
      · next q next here =>
          split at hc
          · next hwaits =>
              obtain rfl := Option.some.inj hc
              exact .drop here hwaits
          · cases hc
      · cases hc

/-- **What can be replayed is a run.** -/
theorem run_of_replay (hc : replay? service h c = some c') : Run service c h c' := by
  induction h generalizing c with
  | nil =>
      obtain rfl := Option.some.inj hc
      exact .start
  | cons e rest ih =>
      obtain ⟨middle, hone, hrest⟩ := Option.bind_eq_some_iff.mp hc
      exact (Run.single (step_of_happen hone)).trans (ih hrest)

end Replay

end Callers

end ChargeController
