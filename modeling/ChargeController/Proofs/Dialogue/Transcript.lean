import ChargeController.Dialogue
import Mathlib.Tactic.Lemma

/-!
# Transcripts of dialogues

A dialogue is a program that does not know its surroundings, so what it does is described without
them: by the transcripts it can have.  A transcript lists questions with the replies they got, and
the dialogue asks each next question because of the replies before it.  Whether surroundings would
really have given these replies is a second, separate question.

* `Leads`, `Ends` — what a dialogue can have said when it stands at a point, or at its end.
* **`ends_bind`** — the transcripts of a sequence are the transcripts of its parts, joined;
  `ends_run_bind` is the same for dialogues that may end in a fault.
* `Answered` — the replies of a transcript are those of given surroundings.
* `play` — what is said in surroundings that always have exactly one reply.
-/

namespace ChargeController

/-- A question and the reply that it got. -/
structure Exchange (Ask : Type) (Reply : Ask → Type) where
  question : Ask
  reply : Reply question

namespace Dialogue

variable {Ask : Type} {Reply : Ask → Type} {α β : Type}

/-! ## What a dialogue says -/

/-- With these exchanges a dialogue comes from one point to another. -/
inductive Leads : Dialogue Ask Reply α → List (Exchange Ask Reply) → Dialogue Ask Reply α → Prop
  | stay (d) : Leads d [] d
  | ask {q next r es d} (rest : Leads (next r) es d) : Leads (.ask q next) (⟨q, r⟩ :: es) d

/-- With these exchanges a dialogue comes to its end. -/
def Ends (d : Dialogue Ask Reply α) (es : List (Exchange Ask Reply)) (a : α) : Prop :=
  Leads d es (.done a)

lemma leads_done {a : α} {es : List (Exchange Ask Reply)} {d : Dialogue Ask Reply α} :
    Leads (.done a) es d ↔ es = [] ∧ d = .done a := by
  constructor
  · intro h
    cases h
    exact ⟨rfl, rfl⟩
  · rintro ⟨rfl, rfl⟩
    exact .stay _

lemma ends_done {a b : α} {es : List (Exchange Ask Reply)} :
    Ends (.done a) es b ↔ es = [] ∧ b = a := by
  rw [Ends, leads_done]
  constructor
  · rintro ⟨rfl, h⟩
    cases h
    exact ⟨rfl, rfl⟩
  · rintro ⟨rfl, rfl⟩
    exact ⟨rfl, rfl⟩

lemma ends_ask {q : Ask} {next : Reply q → Dialogue Ask Reply α} {b : α}
    {es : List (Exchange Ask Reply)} :
    Ends (.ask q next) es b ↔ ∃ r rest, es = ⟨q, r⟩ :: rest ∧ Ends (next r) rest b := by
  constructor
  · intro h
    cases h with
    | ask rest => exact ⟨_, _, rfl, rest⟩
  · rintro ⟨r, rest, rfl, h⟩
    exact .ask h

theorem leads_append {d d' : Dialogue Ask Reply α} {es es' : List (Exchange Ask Reply)} :
    Leads d (es ++ es') d' ↔ ∃ middle, Leads d es middle ∧ Leads middle es' d' := by
  induction es generalizing d with
  | nil =>
      constructor
      · intro h
        exact ⟨d, .stay d, h⟩
      · rintro ⟨middle, hstay, h⟩
        cases hstay
        exact h
  | cons e es ih =>
      constructor
      · intro h
        cases h with
        | ask rest =>
            obtain ⟨middle, hfirst, hsecond⟩ := ih.mp rest
            exact ⟨middle, .ask hfirst, hsecond⟩
      · rintro ⟨middle, hfirst, hsecond⟩
        cases hfirst with
        | ask rest => exact .ask (ih.mpr ⟨middle, rest, hsecond⟩)

/-- A transcript leads to one point only. -/
lemma Leads.unique {d d₁ d₂ : Dialogue Ask Reply α} {es : List (Exchange Ask Reply)}
    (h₁ : Leads d es d₁) (h₂ : Leads d es d₂) : d₁ = d₂ := by
  induction h₁ with
  | stay d =>
      cases h₂
      rfl
  | ask rest ih =>
      cases h₂ with
      | ask rest' => exact ih rest'

/-- **A sequence of dialogues says what the first says and then what the second says.** -/
theorem ends_bind {d : Dialogue Ask Reply α} {f : α → Dialogue Ask Reply β}
    {es : List (Exchange Ask Reply)} {b : β} :
    Ends (bind d f) es b ↔
      ∃ first a second, es = first ++ second ∧ Ends d first a ∧ Ends (f a) second b := by
  induction d generalizing es with
  | done a =>
      constructor
      · intro h
        exact ⟨[], a, es, rfl, .stay _, h⟩
      · rintro ⟨first, a', second, rfl, hfirst, hsecond⟩
        obtain ⟨rfl, rfl⟩ := ends_done.mp hfirst
        exact hsecond
  | ask q next ih =>
      constructor
      · intro h
        obtain ⟨r, rest, rfl, hrest⟩ := ends_ask.mp h
        obtain ⟨first, a, second, rfl, hfirst, hsecond⟩ := (ih r).mp hrest
        exact ⟨⟨q, r⟩ :: first, a, second, rfl, .ask hfirst, hsecond⟩
      · rintro ⟨first, a, second, rfl, hfirst, hsecond⟩
        obtain ⟨r, rest, rfl, hrest⟩ := ends_ask.mp hfirst
        exact .ask ((ih r).mpr ⟨rest, a, second, rfl, hrest, hsecond⟩)

/-- A sequence that begins with a question. -/
lemma ends_question_bind {q : Ask} {f : Reply q → Dialogue Ask Reply β}
    {es : List (Exchange Ask Reply)} {b : β} :
    Ends (question q >>= f) es b ↔ ∃ r rest, es = ⟨q, r⟩ :: rest ∧ Ends (f r) rest b :=
  ends_ask

/-! ## Dialogues that may end in a fault -/

section

variable {ε : Type} {result : Except ε α} {es : List (Exchange Ask Reply)}

lemma ends_run_pure {a : α} :
    Ends (pure a : ExceptT ε (Dialogue Ask Reply) α).run es result ↔ es = [] ∧ result = .ok a :=
  ends_done

lemma ends_run_throw {fault : ε} :
    Ends (throw fault : ExceptT ε (Dialogue Ask Reply) α).run es result ↔
      es = [] ∧ result = .error fault :=
  ends_done

lemma ends_run_lift {q : Ask} {result : Except ε (Reply q)} :
    Ends (ExceptT.lift (question q) : ExceptT ε (Dialogue Ask Reply) (Reply q)).run es result ↔
      ∃ r, es = [⟨q, r⟩] ∧ result = .ok r := by
  constructor
  · intro h
    obtain ⟨r, rest, rfl, hrest⟩ := ends_ask.mp h
    obtain ⟨rfl, rfl⟩ := ends_done.mp hrest
    exact ⟨r, rfl, rfl⟩
  · rintro ⟨r, rfl, rfl⟩
    exact .ask (.stay _)

/-- **A sequence ends with a fault of its first part, or goes on with the second.** -/
theorem ends_run_bind {p : ExceptT ε (Dialogue Ask Reply) α}
    {f : α → ExceptT ε (Dialogue Ask Reply) β} {result : Except ε β} :
    Ends (p >>= f).run es result ↔
      (∃ fault, Ends p.run es (.error fault) ∧ result = .error fault) ∨
        ∃ first a second, es = first ++ second ∧ Ends p.run first (.ok a) ∧
          Ends (f a).run second result := by
  rw [ExceptT.run_bind]
  refine ends_bind.trans ?_
  constructor
  · rintro ⟨first, outcome, second, rfl, hfirst, hsecond⟩
    cases outcome with
    | error fault =>
        obtain ⟨rfl, rfl⟩ := ends_done.mp hsecond
        exact .inl ⟨fault, by rwa [List.append_nil], rfl⟩
    | ok a => exact .inr ⟨first, a, second, rfl, hfirst, hsecond⟩
  · rintro (⟨fault, hfirst, rfl⟩ | ⟨first, a, second, rfl, hfirst, hsecond⟩)
    · exact ⟨es, .error fault, [], (List.append_nil es).symm, hfirst, .stay _⟩
    · exact ⟨first, .ok a, second, rfl, hfirst, hsecond⟩

/-- A sequence that begins with a question. -/
lemma ends_run_question_bind {q : Ask} {f : Reply q → ExceptT ε (Dialogue Ask Reply) α} :
    Ends (ExceptT.lift (question q) >>= f).run es result ↔
      ∃ r rest, es = ⟨q, r⟩ :: rest ∧ Ends (f r).run rest result :=
  ends_ask

end

/-- **Wherever a dialogue stands, it can still come to an end**, as long as every question has some
reply. -/
theorem exists_ends [∀ q, Nonempty (Reply q)] (d : Dialogue Ask Reply α) : ∃ es a, Ends d es a := by
  induction d with
  | done a => exact ⟨[], a, .stay _⟩
  | ask q next ih =>
      obtain ⟨r⟩ := (inferInstance : Nonempty (Reply q))
      obtain ⟨es, a, h⟩ := ih r
      exact ⟨⟨q, r⟩ :: es, a, .ask h⟩

/-! ## What surroundings reply -/

/-- Surroundings: in which state a question gets which reply, and the state after it. -/
abbrev Surroundings (S : Type) (Ask : Type) (Reply : Ask → Type) : Type :=
  S → (q : Ask) → Reply q → S → Prop

variable {S : Type} {around : Surroundings S Ask Reply}

/-- The replies of a transcript are given by the surroundings, one after the other. -/
inductive Answered (around : Surroundings S Ask Reply) :
    S → List (Exchange Ask Reply) → S → Prop
  | nil (s) : Answered around s [] s
  | cons {s s' s'' e es} (first : around s e.question e.reply s')
      (rest : Answered around s' es s'') : Answered around s (e :: es) s''

lemma answered_nil {s s' : S} : Answered around s [] s' ↔ s' = s := by
  constructor
  · intro h
    cases h
    rfl
  · rintro rfl
    exact .nil _

lemma answered_cons {s s'' : S} {e : Exchange Ask Reply} {es : List (Exchange Ask Reply)} :
    Answered around s (e :: es) s'' ↔
      ∃ s', around s e.question e.reply s' ∧ Answered around s' es s'' := by
  constructor
  · intro h
    cases h with
    | cons first rest => exact ⟨_, first, rest⟩
  · rintro ⟨s', first, rest⟩
    exact .cons first rest

theorem answered_append {s s'' : S} {es es' : List (Exchange Ask Reply)} :
    Answered around s (es ++ es') s'' ↔
      ∃ s', Answered around s es s' ∧ Answered around s' es' s'' := by
  induction es generalizing s with
  | nil =>
      constructor
      · intro h
        exact ⟨s, .nil s, h⟩
      · rintro ⟨s', hnil, h⟩
        cases hnil
        exact h
  | cons e es ih =>
      constructor
      · intro h
        obtain ⟨middle, hfirst, hrest⟩ := answered_cons.mp h
        obtain ⟨s', hes, hes'⟩ := ih.mp hrest
        exact ⟨s', .cons hfirst hes, hes'⟩
      · rintro ⟨s', hes, hes'⟩
        obtain ⟨middle, hfirst, hrest⟩ := answered_cons.mp hes
        exact .cons hfirst (ih.mpr ⟨s', hrest, hes'⟩)

/-- **In surroundings that always reply, a dialogue comes to an end.** -/
theorem exists_answered (hreplies : ∀ s q, ∃ r s', around s q r s') (s : S)
    (d : Dialogue Ask Reply α) : ∃ es a s', Ends d es a ∧ Answered around s es s' := by
  induction d generalizing s with
  | done a => exact ⟨[], a, s, .stay _, .nil s⟩
  | ask q next ih =>
      obtain ⟨r, s', hreply⟩ := hreplies s q
      obtain ⟨es, a, s'', hends, hanswered⟩ := ih r s'
      exact ⟨⟨q, r⟩ :: es, a, s'', .ask hends, .cons hreply hanswered⟩

/-! ## Runs -/

/-- What is said, the end and the state after it, in surroundings with exactly one reply to each
question. -/
def play (serve : S → (q : Ask) → Reply q × S) :
    S → Dialogue Ask Reply α → List (Exchange Ask Reply) × α × S
  | s, .done a => ([], a, s)
  | s, .ask q next =>
      let later := play serve (serve s q).2 (next (serve s q).1)
      (⟨q, (serve s q).1⟩ :: later.1, later.2)

/-- **What is played is a transcript** of the dialogue with the replies of its surroundings. -/
theorem play_ends {serve : S → (q : Ask) → Reply q × S}
    (hserve : ∀ s q, around s q (serve s q).1 (serve s q).2) (s : S) (d : Dialogue Ask Reply α) :
    Ends d (play serve s d).1 (play serve s d).2.1 ∧
      Answered around s (play serve s d).1 (play serve s d).2.2 := by
  induction d generalizing s with
  | done a => exact ⟨.stay _, .nil s⟩
  | ask q next ih =>
      obtain ⟨hends, hanswered⟩ := ih (serve s q).1 (serve s q).2
      exact ⟨.ask hends, .cons (hserve s q) hanswered⟩

/-- A transcript whose every reply is the only one is what is played. -/
theorem play_eq_of_ends {serve : S → (q : Ask) → Reply q × S} {s s' : S}
    {d : Dialogue Ask Reply α} {es : List (Exchange Ask Reply)} {a : α} (hends : Ends d es a)
    (hanswered : Answered (fun s q r s' => serve s q = (r, s')) s es s') :
    play serve s d = (es, a, s') := by
  induction es generalizing s d with
  | nil =>
      cases hends
      cases hanswered
      rfl
  | cons e es ih =>
      cases hends with
      | ask rest =>
          obtain ⟨t, hfirst, hrest⟩ := answered_cons.mp hanswered
          simp only [play, hfirst, ih rest hrest]

lemma play_ask (serve : S → (q : Ask) → Reply q × S) (s : S) (q : Ask)
    (next : Reply q → Dialogue Ask Reply α) :
    (play serve s (.ask q next)).2 = (play serve (serve s q).2 (next (serve s q).1)).2 :=
  rfl

/-- A sequence is played part by part. -/
theorem play_bind (serve : S → (q : Ask) → Reply q × S) (s : S) (d : Dialogue Ask Reply α)
    (f : α → Dialogue Ask Reply β) :
    (play serve s (bind d f)).2 =
      (play serve (play serve s d).2.2 (f (play serve s d).2.1)).2 := by
  induction d generalizing s with
  | done a => rfl
  | ask q next ih => exact ih ..

/-- A dialogue whose end is changed is played alike. -/
theorem play_map (serve : S → (q : Ask) → Reply q × S) (s : S) (f : α → β)
    (d : Dialogue Ask Reply α) :
    play serve s (f <$> d) =
      ((play serve s d).1, f (play serve s d).2.1, (play serve s d).2.2) := by
  induction d generalizing s with
  | done a => rfl
  | ask q next ih =>
      have hmap : f <$> Dialogue.ask q next = .ask q fun r => f <$> next r := rfl
      simp only [hmap, play, ih]

/-- Whoever plays a dialogue that is settled by another one plays the other one at every
question. -/
theorem play_settle {Ask' : Type} {Reply' : Ask' → Type}
    (serve : S → (q : Ask') → Reply' q × S) (answer : (q : Ask) → Dialogue Ask' Reply' (Reply q))
    (s : S) (d : Dialogue Ask Reply α) :
    (play serve s (settle answer d)).2 =
      (play (fun s q => (play serve s (answer q)).2) s d).2 := by
  induction d generalizing s with
  | done a => rfl
  | ask q next ih =>
      rw [settle, play_bind, ih]
      rfl

end Dialogue

end ChargeController
