import ChargeController.Proofs.Dialogue.Callers
import Mathlib.Data.List.Induction

/-!
# Taking turns

Some services have something to give that a caller has for a while: from one of its replies on, and
until it gives it back or is dropped.  This while is the caller's turn.  A dialogue is orderly if it
asks for what belongs to a turn in a turn only, has one turn at most, and ends soon after it.

* `Turn.inTurn` — whether a caller is in its turn after a history.
* **`Run.fits`** — callers with orderly dialogues are, at any point of any run, where their turns
  say they are.
-/

namespace ChargeController

/-- What begins a turn, what ends it, and what may be asked in a turn only. -/
structure Turn (Ask : Type) (Reply : Ask → Type) where
  begins : (q : Ask) → Reply q → Bool
  ends : Ask → Bool
  needs : Ask → Bool

namespace Turn

variable {Ask : Type} {Reply : Ask → Type} {α : Type} (t : Turn Ask Reply)

/-- Whether a caller is in its turn after an event, given whether it was before. -/
def after (n : Nat) (before : Bool) : Event Ask Reply → Bool
  | .asks _ _ => before
  | .told m ⟨q, r⟩ => if m = n then !t.ends q && (t.begins q r || before) else before
  | .dropped m => if m = n then false else before

/-- Whether a caller is in its turn after a history. -/
def inTurn (n : Nat) (h : List (Event Ask Reply)) : Bool :=
  h.foldl (t.after n) false

@[simp] lemma inTurn_nil {n : Nat} : t.inTurn n [] = false :=
  rfl

@[simp] lemma inTurn_concat {n : Nat} {h : List (Event Ask Reply)} {e : Event Ask Reply} :
    t.inTurn n (h ++ [e]) = t.after n (t.inTurn n h) e := by
  simp only [inTurn, List.foldl_append, List.foldl_cons, List.foldl_nil]

variable {t}

lemma after_of_ne {n : Nat} {b : Bool} {e : Event Ask Reply} (hne : e.caller ≠ n) :
    t.after n b e = b := by
  cases e with
  | asks m q => rfl
  | told m x =>
      have hm : m ≠ n := hne
      rw [after, if_neg hm]
  | dropped m =>
      have hm : m ≠ n := hne
      rw [after, if_neg hm]

lemma after_told_self {n : Nat} {b : Bool} {q : Ask} {r : Reply q} :
    t.after n b (.told n ⟨q, r⟩) = (!t.ends q && (t.begins q r || b)) := by
  rw [after, if_pos rfl]

lemma after_dropped_self {n : Nat} {b : Bool} : t.after n b (.dropped n) = false := by
  rw [after, if_pos rfl]

/-- Whoever is in its turn has begun it. -/
lemma begins_of_inTurn {n : Nat} {h : List (Event Ask Reply)} (hin : t.inTurn n h = true) :
    ∃ q r, t.begins q r = true ∧ .told n ⟨q, r⟩ ∈ h := by
  induction h using List.reverseRecOn with
  | nil => cases hin
  | append_singleton h e ih =>
      rw [inTurn_concat] at hin
      have hbefore (hin : t.inTurn n h = true) :
          ∃ q r, t.begins q r = true ∧ .told n ⟨q, r⟩ ∈ h ++ [e] := by
        obtain ⟨q, r, hbegins, hmem⟩ := ih hin
        exact ⟨q, r, hbegins, List.mem_append_left _ hmem⟩
      by_cases hne : e.caller ≠ n
      · rw [after_of_ne hne] at hin
        exact hbefore hin
      cases e with
      | asks m q => exact hbefore hin
      | told m x =>
          obtain rfl : m = n := not_not.mp hne
          rw [after_told_self, Bool.and_eq_true, Bool.or_eq_true] at hin
          rcases hin.2 with hbegins | hin
          · exact ⟨_, _, hbegins, List.mem_append_right _ List.mem_cons_self⟩
          · exact hbefore hin
      | dropped m =>
          obtain rfl : m = n := not_not.mp hne
          rw [after_dropped_self] at hin
          cases hin

/-- A turn that has begun lasts until it is ended or its caller is dropped. -/
lemma inTurn_of_begins {n : Nat} {h : List (Event Ask Reply)} {q : Ask} {r : Reply q}
    (hbegins : t.begins q r = true) (hmem : .told n ⟨q, r⟩ ∈ h)
    (hends : ∀ q r, t.ends q = true → .told n ⟨q, r⟩ ∉ h) (hdropped : .dropped n ∉ h) :
    t.inTurn n h = true := by
  induction h using List.reverseRecOn with
  | nil => cases hmem
  | append_singleton h e ih =>
      rw [inTurn_concat]
      have hlast {e' : Event Ask Reply} (hnot : e' ∉ h ++ [e]) : e' ≠ e := by
        rintro rfl
        exact hnot (List.mem_append_right _ List.mem_cons_self)
      have hbefore (hmem : .told n ⟨q, r⟩ ∈ h) : t.inTurn n h = true :=
        ih hmem (fun q r hq hin => hends q r hq (List.mem_append_left _ hin))
          fun hin => hdropped (List.mem_append_left _ hin)
      rcases List.mem_append.mp hmem with hmem | hmem
      · have hin := hbefore hmem
        by_cases hne : e.caller ≠ n
        · rw [after_of_ne hne, hin]
        cases e with
        | asks m q' => exact hin
        | told m x =>
            obtain rfl : m = n := not_not.mp hne
            rw [after_told_self, hin, Bool.or_true, Bool.and_true, Bool.not_eq_true']
            exact Bool.eq_false_iff.mpr fun hq => hlast (hends _ _ hq) rfl
        | dropped m =>
            obtain rfl : m = n := not_not.mp hne
            exact absurd rfl (hlast hdropped)
      · obtain rfl := List.mem_singleton.mp hmem
        rw [after_told_self, hbegins, Bool.true_or, Bool.and_true, Bool.not_eq_true']
        exact Bool.eq_false_iff.mpr fun hq => hlast (hends _ _ hq) rfl

/-- A dialogue that keeps to its turn, in which it is already or not. -/
def Orderly (t : Turn Ask Reply) : Dialogue Ask Reply α → Bool → Prop
  | .done _, inTurn => inTurn = false
  | .ask q next, inTurn =>
      (t.needs q = true → inTurn = true) ∧
      (t.ends q = true → inTurn = true ∧ ∀ r, ∃ a, next r = .done a) ∧
      (t.ends q = false →
        ∀ r, (t.begins q r = true → inTurn = false) ∧ Orderly t (next r) (t.begins q r || inTurn))

/-- A question that neither begins nor ends a turn. -/
lemma orderly_ask {q : Ask} {next : Reply q → Dialogue Ask Reply α} {b : Bool}
    (hneeds : t.needs q = true → b = true) (hends : t.ends q = false)
    (hbegins : ∀ r, t.begins q r = false) (h : ∀ r, t.Orderly (next r) b) :
    t.Orderly (.ask q next) b := by
  refine ⟨hneeds, fun h => ?_, fun _ r => ⟨fun h => ?_, ?_⟩⟩
  · rw [hends] at h
    cases h
  · rw [hbegins] at h
    cases h
  · rw [hbegins]
    exact h r

/-- A question that may begin a turn. -/
lemma orderly_begin {q : Ask} {next : Reply q → Dialogue Ask Reply α}
    (hneeds : t.needs q = false) (hends : t.ends q = false)
    (h : ∀ r, t.Orderly (next r) (t.begins q r)) : t.Orderly (.ask q next) false := by
  refine ⟨fun h => ?_, fun h => ?_, fun _ r => ⟨fun _ => rfl, ?_⟩⟩
  · rw [hneeds] at h
    cases h
  · rw [hends] at h
    cases h
  · rw [Bool.or_false]
    exact h r

/-- A question that ends a turn. -/
lemma orderly_end {q : Ask} {next : Reply q → Dialogue Ask Reply α} (hends : t.ends q = true)
    (h : ∀ r, ∃ a, next r = .done a) : t.Orderly (.ask q next) true := by
  refine ⟨fun _ => rfl, fun _ => ⟨rfl, h⟩, fun h => ?_⟩
  rw [hends] at h
  cases h

/-- A stand of an orderly dialogue. -/
def Fits (t : Turn Ask Reply) : Stand Ask Reply α → Bool → Prop
  | .going d, inTurn => t.Orderly d inTurn
  | .waiting q next, inTurn => t.Orderly (.ask q next) inTurn
  | .gone, inTurn => inTurn = false

lemma Fits.of_over {s : Stand Ask Reply α} {b : Bool} (h : t.Fits s b) (hover : s.IsOver) :
    b = false := by
  match s with
  | .going (.done _) => exact h
  | .gone => exact h

end Turn

namespace Callers

variable {S Ask : Type} {Reply : Ask → Type} {α : Nat → Type} {service : Service S Ask Reply}
  {c c' : Callers S Ask Reply α} {h : List (Event Ask Reply)} {e : Event Ask Reply} {n : Nat}
  {t : Turn Ask Reply} {b : Bool}

lemma Step.fits (step : Step service c e c') (hfits : t.Fits (c.stand n) b) :
    t.Fits (c'.stand n) (t.after n b e) := by
  by_cases hne : e.caller ≠ n
  · rwa [step.stand_of_ne hne, Turn.after_of_ne hne]
  cases step with
  | @ask m q next here =>
      obtain rfl : m = n := not_not.mp hne
      rw [here] at hfits
      dsimp only
      rw [Function.update_self]
      exact hfits
  | @tell m q next r here _ =>
      obtain rfl : m = n := not_not.mp hne
      rw [here] at hfits
      obtain ⟨-, hends, hgoes⟩ := hfits
      dsimp only
      rw [Function.update_self, Turn.after_told_self]
      cases hq : t.ends q with
      | true =>
          obtain ⟨a, ha⟩ := (hends hq).2 r
          rw [ha]
          rfl
      | false => exact (hgoes hq r).2
  | @drop m q next here _ =>
      obtain rfl : m = n := not_not.mp hne
      dsimp only
      rw [Function.update_self, Turn.after_dropped_self]
      rfl

variable {s : S} {talk : ∀ n, Dialogue Ask Reply (α n)}

/-- **Orderly callers stand where their turns say they are.** -/
theorem Run.fits (horderly : ∀ n, t.Orderly (talk n) false) (run : Run service (fresh s talk) h c)
    (n : Nat) : t.Fits (c.stand n) (t.inTurn n h) := by
  induction run with
  | start => exact horderly n
  | next before step ih =>
      rw [Turn.inTurn_concat]
      exact step.fits ih

/-- What belongs to a turn is asked for in a turn. -/
lemma Run.inTurn_of_needs (horderly : ∀ n, t.Orderly (talk n) false)
    (run : Run service (fresh s talk) h c) {q : Ask} {next : Reply q → Dialogue Ask Reply (α n)}
    (hstand : c.stand n = .going (.ask q next) ∨ c.stand n = .waiting q next)
    (hneeds : t.needs q = true) : t.inTurn n h = true := by
  have hfits := run.fits horderly n
  rcases hstand with hstand | hstand
  · rw [hstand] at hfits
    exact hfits.1 hneeds
  · rw [hstand] at hfits
    exact hfits.1 hneeds

/-- A turn ends with the caller. -/
lemma Run.over_of_ends (horderly : ∀ n, t.Orderly (talk n) false)
    (run : Run service (fresh s talk) h c) {q : Ask} {r : Reply q} (hends : t.ends q = true)
    (hmem : .told n ⟨q, r⟩ ∈ h) : (c.stand n).IsOver := by
  obtain ⟨h₁, h₂, rfl⟩ := List.append_of_mem hmem
  obtain ⟨before, after, hbefore, step, hafter⟩ := run.at
  have hfits := hbefore.fits horderly n
  cases step with
  | @tell m q next r here _ =>
      rw [here] at hfits
      obtain ⟨a, ha⟩ := (hfits.2.1 hends).2 r
      have hover : (Function.update before.stand n (.going (next r)) n).IsOver := by
        rw [Function.update_self, ha]
        exact trivial
      rw [(hafter.over hover).1]
      exact hover

lemma Run.over_of_dropped (run : Run service (fresh s talk) h c) (hmem : .dropped n ∈ h) :
    (c.stand n).IsOver := by
  rw [(run.dropped_iff fun hgone => nomatch hgone).mp hmem]
  exact trivial

/-- **A caller is in its turn** if its turn has begun and it has neither ended it nor been
dropped. -/
theorem Run.inTurn_iff (horderly : ∀ n, t.Orderly (talk n) false)
    (run : Run service (fresh s talk) h c) :
    t.inTurn n h = true ↔
      (∃ q r, t.begins q r = true ∧ .told n ⟨q, r⟩ ∈ h) ∧
      (∀ q r, t.ends q = true → .told n ⟨q, r⟩ ∉ h) ∧ .dropped n ∉ h := by
  constructor
  · intro hin
    have hover : ¬ (c.stand n).IsOver := by
      intro hover
      cases hin.symm.trans ((run.fits horderly n).of_over hover)
    refine ⟨Turn.begins_of_inTurn hin, fun q r hends hmem => ?_, fun hmem => ?_⟩
    · exact hover (run.over_of_ends horderly hends hmem)
    · exact hover (run.over_of_dropped hmem)
  · rintro ⟨⟨q, r, hbegins, hmem⟩, hends, hdropped⟩
    exact Turn.inTurn_of_begins hbegins hmem hends hdropped

/-- A turn lasts until the caller is over. -/
theorem Run.inTurn_or_over (horderly : ∀ n, t.Orderly (talk n) false) {h' : List (Event Ask Reply)}
    (before : Run service (fresh s talk) h c) (run : Run service c h' c')
    (hin : t.inTurn n h = true) : t.inTurn n (h ++ h') = true ∨ (c'.stand n).IsOver := by
  have whole := before.trans run
  by_cases hover : (c'.stand n).IsOver
  · exact .inr hover
  · obtain ⟨q, r, hbegins, hmem⟩ := Turn.begins_of_inTurn hin
    refine .inl (Turn.inTurn_of_begins hbegins (List.mem_append_left _ hmem) ?_ ?_)
    · exact fun q r hends hmem => hover (whole.over_of_ends horderly hends hmem)
    · exact fun hmem => hover (whole.over_of_dropped hmem)

end Callers

end ChargeController
