/-!
# Dialogues

A procedure that talks to a device is written as a dialogue: it ends with a value, or it asks a
question and goes on with the answer.  A dialogue says nothing about time, failure or who else is
talking; each of these is a way to answer.  The same dialogue is therefore run against a device in
virtual time and reasoned about for every sequence of answers.

* `Dialogue.bind` — one dialogue after another; dialogues form a lawful monad.
* `Dialogue.settle` — every question is settled by a dialogue of another kind; settling respects
  the order of dialogues.
-/

namespace ChargeController

/-- A dialogue with the questions `Ask`, each with its type of reply, that ends with an `α`. -/
inductive Dialogue (Ask : Type) (Reply : Ask → Type) (α : Type) where
  | done (value : α)
  | ask (question : Ask) (next : Reply question → Dialogue Ask Reply α)

namespace Dialogue

variable {Ask Ask' : Type} {Reply : Ask → Type} {Reply' : Ask' → Type} {α β : Type}

/-- Goes on with another dialogue when the first one has ended. -/
def bind : Dialogue Ask Reply α → (α → Dialogue Ask Reply β) → Dialogue Ask Reply β
  | done a, f => f a
  | ask q next, f => ask q fun r => bind (next r) f

instance : Monad (Dialogue Ask Reply) where
  pure := done
  bind := bind

/-- Asks one question. -/
def question (q : Ask) : Dialogue Ask Reply (Reply q) :=
  ask q done

/-- The same dialogue with every question settled by a dialogue of another kind. -/
def settle (answer : (q : Ask) → Dialogue Ask' Reply' (Reply q)) :
    Dialogue Ask Reply α → Dialogue Ask' Reply' α
  | done a => done a
  | ask q next => bind (answer q) fun r => settle answer (next r)

/-! ## Laws -/

theorem bind_done (d : Dialogue Ask Reply α) : bind d done = d := by
  induction d with
  | done _ => rfl
  | ask q next ih => simp only [bind, ih]

theorem bind_assoc {γ : Type} (d : Dialogue Ask Reply α) (f : α → Dialogue Ask Reply β)
    (g : β → Dialogue Ask Reply γ) : bind (bind d f) g = bind d fun a => bind (f a) g := by
  induction d with
  | done _ => rfl
  | ask q next ih => simp only [bind, ih]

instance : LawfulMonad (Dialogue Ask Reply) :=
  LawfulMonad.mk' (Dialogue Ask Reply) bind_done (fun _ _ => rfl) bind_assoc

/-- Settling two dialogues, one after the other, is settling each. -/
theorem settle_bind (answer : (q : Ask) → Dialogue Ask' Reply' (Reply q))
    (d : Dialogue Ask Reply α) (f : α → Dialogue Ask Reply β) :
    settle answer (bind d f) = bind (settle answer d) fun a => settle answer (f a) := by
  induction d with
  | done _ => rfl
  | ask q next ih => simp only [bind, settle, ih, bind_assoc]

end Dialogue

end ChargeController
