import ChargeController.Proofs.Dialogue.Transcript
import Mathlib.Logic.Function.Basic

/-!
# Dialogues that share their surroundings

Several dialogues go on at once and ask the same surroundings.  A crew is the surroundings' state
together with how far each member has come; in one move any member asks its next question, and
nothing is said about which.  So a run of a crew is any interleaving of its members.

* `Run` — the moves of a run, oldest first.
* **`Run.leads`**, **`Run.answered`** — a run is one transcript for each member and one for the
  surroundings, and the first are what the last says about each member.
* `perform` — the run under a given schedule, for surroundings with exactly one reply.
-/

namespace ChargeController

/-- A member of a crew, and what it asked and was told. -/
structure Move (ι Ask : Type) (Reply : Ask → Type) where
  member : ι
  exchange : Exchange Ask Reply

/-- Dialogues that share their surroundings, and the state of these. -/
structure Crew {ι : Type} (S Ask : Type) (Reply : Ask → Type) (α : ι → Type) where
  shared : S
  talk : ∀ i, Dialogue Ask Reply (α i)

namespace Crew

open Dialogue

variable {ι S Ask : Type} {Reply : Ask → Type} {α : ι → Type} [DecidableEq ι]
  {around : Surroundings S Ask Reply}

/-! ## Histories -/

/-- What one member said. -/
def own (i : ι) (h : List (Move ι Ask Reply)) : List (Exchange Ask Reply) :=
  (h.filter fun m => m.member = i).map (·.exchange)

/-- What all of them said. -/
def said (h : List (Move ι Ask Reply)) : List (Exchange Ask Reply) :=
  h.map (·.exchange)

omit [DecidableEq ι] in
@[simp] lemma said_append (h h' : List (Move ι Ask Reply)) :
    said (h ++ h') = said h ++ said h' :=
  List.map_append

omit [DecidableEq ι] in
@[simp] lemma said_cons (m : Move ι Ask Reply) (h : List (Move ι Ask Reply)) :
    said (m :: h) = m.exchange :: said h :=
  rfl

@[simp] lemma own_append (i : ι) (h h' : List (Move ι Ask Reply)) :
    own i (h ++ h') = own i h ++ own i h' := by
  simp only [own, List.filter_append, List.map_append]

@[simp] lemma own_cons_self (i : ι) (e : Exchange Ask Reply) (h : List (Move ι Ask Reply)) :
    own i (⟨i, e⟩ :: h) = e :: own i h := by
  simp [own]

/-- What one member says is not another's. -/
lemma own_cons_of_ne {i j : ι} (hne : j ≠ i) (e : Exchange Ask Reply)
    (h : List (Move ι Ask Reply)) : own i (⟨j, e⟩ :: h) = own i h := by
  simp [own, hne]

/-- A member has said what the history has under its name. -/
lemma mem_own {i : ι} {e : Exchange Ask Reply} {h : List (Move ι Ask Reply)} :
    e ∈ own i h ↔ ⟨i, e⟩ ∈ h := by
  constructor
  · intro he
    obtain ⟨⟨j, e'⟩, hm, rfl⟩ := List.mem_map.mp he
    obtain ⟨hm, hj⟩ := List.mem_filter.mp hm
    have hj : j = i := of_decide_eq_true hj
    rwa [hj] at hm
  · intro hm
    exact List.mem_map.mpr ⟨⟨i, e⟩, List.mem_filter.mpr ⟨hm, decide_eq_true rfl⟩, rfl⟩

/-- Where the words of a member are cut in two, the history can be cut too. -/
lemma own_eq_append {i : ι} {h : List (Move ι Ask Reply)} {es es' : List (Exchange Ask Reply)}
    (heq : own i h = es ++ es') :
    ∃ h₁ h₂, h = h₁ ++ h₂ ∧ own i h₁ = es ∧ own i h₂ = es' := by
  obtain ⟨l₁, l₂, hl, rfl, rfl⟩ := List.map_eq_append_iff.mp heq
  obtain ⟨h₁, h₂, rfl, rfl, rfl⟩ := List.filter_eq_append_iff.mp hl
  exact ⟨h₁, h₂, rfl, rfl, rfl⟩

/-- Before the first words of a member it has said nothing. -/
lemma own_eq_cons {i : ι} {h : List (Move ι Ask Reply)} {e : Exchange Ask Reply}
    {es : List (Exchange Ask Reply)} (heq : own i h = e :: es) :
    ∃ h₁ h₂, h = h₁ ++ ⟨i, e⟩ :: h₂ ∧ own i h₁ = [] ∧ own i h₂ = es := by
  obtain ⟨⟨j, e'⟩, l₂, hl, rfl, rfl⟩ := List.map_eq_cons_iff.mp heq
  obtain ⟨h₁, h₂, rfl, hnone, hj, rfl⟩ := List.filter_eq_cons_iff.mp hl
  have hj : j = i := of_decide_eq_true hj
  subst hj
  refine ⟨h₁, h₂, rfl, ?_, rfl⟩
  simp only [own]
  rw [List.filter_eq_nil_iff.mpr hnone, List.map_nil]

/-- Each word of a member has its place in the history. -/
lemma own_eq_append_cons {i : ι} {h : List (Move ι Ask Reply)} {e : Exchange Ask Reply}
    {es es' : List (Exchange Ask Reply)} (heq : own i h = es ++ e :: es') :
    ∃ h₁ h₂, h = h₁ ++ ⟨i, e⟩ :: h₂ ∧ own i h₁ = es ∧ own i h₂ = es' := by
  obtain ⟨h₁, h₂, rfl, rfl, hrest⟩ := own_eq_append heq
  obtain ⟨h₃, h₄, rfl, hnil, rfl⟩ := own_eq_cons hrest
  refine ⟨h₁ ++ h₃, h₄, by rw [List.append_assoc], ?_, rfl⟩
  rw [own_append, hnil, List.append_nil]

/-! ## Runs -/

/-- One member asks its next question. -/
inductive Step (around : Surroundings S Ask Reply) :
    Crew S Ask Reply α → Move ι Ask Reply → Crew S Ask Reply α → Prop
  | ask {c : Crew S Ask Reply α} {i q next r s} (hnext : c.talk i = .ask q next)
      (hreply : around c.shared q r s) :
      Step around c ⟨i, ⟨q, r⟩⟩ ⟨s, Function.update c.talk i (next r)⟩

/-- Any number of moves, in any order of the members. -/
inductive Run (around : Surroundings S Ask Reply) (c : Crew S Ask Reply α) :
    List (Move ι Ask Reply) → Crew S Ask Reply α → Prop
  | start : Run around c [] c
  | move {h c' m c''} (before : Run around c h c') (step : Step around c' m c'') :
      Run around c (h ++ [m]) c''

/-- **A run of a crew is a transcript of every member.** -/
theorem Run.leads {c c' : Crew S Ask Reply α} {h : List (Move ι Ask Reply)}
    (run : Run around c h c') (i : ι) : Leads (c.talk i) (own i h) (c'.talk i) := by
  induction run with
  | start => exact .stay _
  | @move h c' m c'' before step ih =>
      cases step with
      | @ask j q next r s hnext hreply =>
          rw [own_append]
          rcases eq_or_ne j i with rfl | hne
          · refine leads_append.mpr ⟨_, ih, ?_⟩
            dsimp only
            rw [hnext, own_cons_self, Function.update_self]
            exact .ask (.stay _)
          · dsimp only
            rw [own_cons_of_ne hne, Function.update_of_ne hne.symm]
            show Leads _ (own i h ++ []) _
            rwa [List.append_nil]

/-- **A run of a crew is a transcript of the surroundings.** -/
theorem Run.answered {c c' : Crew S Ask Reply α} {h : List (Move ι Ask Reply)}
    (run : Run around c h c') : Answered around c.shared (said h) c'.shared := by
  induction run with
  | start => exact .nil _
  | @move h c' m c'' before step ih =>
      cases step with
      | ask hnext hreply =>
          rw [said, List.map_append]
          exact answered_append.mpr ⟨_, ih, .cons hreply (.nil _)⟩

/-- **A run can be interrupted anywhere.** -/
theorem Run.cut {c c'' : Crew S Ask Reply α} {h₁ h₂ : List (Move ι Ask Reply)}
    (run : Run around c (h₁ ++ h₂) c'') : ∃ c', Run around c h₁ c' ∧ Run around c' h₂ c'' := by
  generalize heq : h₁ ++ h₂ = h at run
  induction run generalizing h₂ with
  | start =>
      obtain ⟨rfl, rfl⟩ := List.append_eq_nil_iff.mp heq
      exact ⟨c, .start, .start⟩
  | @move h c' m c'' before step ih =>
      rcases List.eq_nil_or_concat h₂ with rfl | ⟨init, last, rfl⟩
      · rw [List.append_nil] at heq
        subst heq
        exact ⟨c'', .move before step, .start⟩
      · rw [List.concat_eq_append, ← List.append_assoc] at heq
        obtain ⟨rfl, hlast⟩ := List.append_inj' heq rfl
        cases hlast
        obtain ⟨middle, hfirst, hsecond⟩ := ih rfl
        rw [List.concat_eq_append]
        exact ⟨middle, hfirst, .move hsecond step⟩

/-! ## Schedules -/

/-- One member goes on against surroundings with exactly one reply; one that has ended does not. -/
def goOn (serve : S → (q : Ask) → Reply q × S) (c : Crew S Ask Reply α) (i : ι) :
    List (Move ι Ask Reply) × Crew S Ask Reply α :=
  match c.talk i with
  | .done _ => ([], c)
  | .ask q next =>
      ([⟨i, ⟨q, (serve c.shared q).1⟩⟩],
        ⟨(serve c.shared q).2, Function.update c.talk i (next (serve c.shared q).1)⟩)

/-- The members go on in the order of a schedule. -/
def perform (serve : S → (q : Ask) → Reply q × S) :
    List ι → Crew S Ask Reply α → List (Move ι Ask Reply) × Crew S Ask Reply α
  | [], c => ([], c)
  | i :: rest, c =>
      let moved := goOn serve c i
      let later := perform serve rest moved.2
      (moved.1 ++ later.1, later.2)

/-- A run goes on where another one has stopped. -/
lemma Run.trans {c c' c'' : Crew S Ask Reply α} {h h' : List (Move ι Ask Reply)}
    (first : Run around c h c') (second : Run around c' h' c'') :
    Run around c (h ++ h') c'' := by
  induction second with
  | start => rwa [List.append_nil]
  | move before step ih =>
      rw [← List.append_assoc]
      exact .move ih step

/-- **What is performed is a run.** -/
theorem perform_run {serve : S → (q : Ask) → Reply q × S}
    (hserve : ∀ s q, around s q (serve s q).1 (serve s q).2) (schedule : List ι)
    (c : Crew S Ask Reply α) :
    Run around c (perform serve schedule c).1 (perform serve schedule c).2 := by
  induction schedule generalizing c with
  | nil => exact .start
  | cons i rest ih =>
      have first : Run around c (goOn serve c i).1 (goOn serve c i).2 := by
        simp only [goOn]
        split
        · exact .start
        · next q next hnext => exact .move .start (.ask hnext (hserve _ _))
      exact first.trans (ih _)

end Crew

end ChargeController
