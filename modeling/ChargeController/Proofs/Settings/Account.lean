import ChargeController.Proofs.Dialogue.Transcript
import ChargeController.Settings.Procedure
import Mathlib.Tactic.Lemma

/-!
# What a procedure says

The account of a procedure is the transcript of its dialogue together with its result.  The
accounts of a sequence are those of its parts, joined, where a fault ends the sequence; so a fact
about the accounts of a long procedure is put together from facts about its steps.

* `Tells` — an account and the result that it ends with.
* **`tells_bind`** — the accounts of a sequence.
* `tells_confirm` — the accounts of a read that confirms an update.
* `Always` — a fact about every account of a procedure.
* `Throws` — the kind of every fault of a procedure.
-/

namespace ChargeController

open Settings

/-- If two lists joined are one that is cut around an element, this is in the first or the
second. -/
lemma append_eq_append_cons {α : Type} {as bs cs ds : List α} {x : α} :
    as ++ bs = cs ++ x :: ds ↔
      (∃ rest, as = cs ++ x :: rest ∧ ds = rest ++ bs) ∨
        ∃ rest, cs = as ++ rest ∧ bs = rest ++ x :: ds := by
  constructor
  · intro h
    rcases List.append_eq_append_iff.mp h with ⟨rest, rfl, hbs⟩ | ⟨rest, rfl, hrest⟩
    · exact .inr ⟨rest, rfl, hbs⟩
    · cases rest with
      | nil => exact .inr ⟨[], by rw [List.append_nil, List.append_nil], hrest.symm⟩
      | cons y rest =>
          obtain ⟨rfl, rfl⟩ := List.cons.inj hrest
          exact .inl ⟨rest, rfl, rfl⟩
  · rintro (⟨rest, rfl, rfl⟩ | ⟨rest, rfl, rfl⟩)
    · rw [List.append_assoc, List.cons_append]
    · rw [List.append_assoc]

/-! ## Lines -/

namespace Exchange

/-- Whether a line is a write request. -/
def writes : Exchange Ask Reply → Bool
  | ⟨.send r, _⟩ => r.isWrite
  | _ => false

/-- Whether a line is a write request that was accepted. -/
def stores : Exchange Ask Reply → Bool
  | ⟨.send r, .ok _⟩ => r.isWrite
  | _ => false

/-- Whether a line is a given request. -/
def asks (r : Request) : Exchange Ask Reply → Bool
  | ⟨.send r', _⟩ => r' == r
  | _ => false

/-- Whether a line forgets the cached configuration. -/
def forgets : Exchange Ask Reply → Bool
  | ⟨.forget, _⟩ => true
  | _ => false

/-- Whether a line looks into the cache. -/
def looksUp : Exchange Ask Reply → Bool
  | ⟨.lookUp, _⟩ => true
  | _ => false

/-- Whether a line offers a configuration to the cache. -/
def keeps : Exchange Ask Reply → Bool
  | ⟨.keep _ _, _⟩ => true
  | _ => false

/-- Whether a line changes neither the registers nor the generation of the cache. -/
def quiet (e : Exchange Ask Reply) : Bool :=
  !e.writes && !e.forgets

/-- What was accepted had been asked for. -/
lemma writes_of_stores {e : Exchange Ask Reply} (h : e.stores = true) : e.writes = true := by
  obtain ⟨q, r⟩ := e
  cases q with
  | send request =>
      cases r with
      | ok data => exact h
      | error fault => cases h
  | _ => cases h

/-- A write request is a request. -/
lemma writes_eq {e : Exchange Ask Reply} (h : e.writes = true) :
    ∃ r answer, e = ⟨.send r, answer⟩ := by
  obtain ⟨q, r⟩ := e
  cases q with
  | send request => exact ⟨request, r, rfl⟩
  | _ => cases h

lemma asks_eq {e : Exchange Ask Reply} {r : Request} (h : e.asks r = true) :
    ∃ answer, e = ⟨.send r, answer⟩ := by
  obtain ⟨q, answer⟩ := e
  cases q with
  | send r' =>
      obtain rfl := eq_of_beq h
      exact ⟨answer, rfl⟩
  | _ => cases h

lemma forgets_eq {e : Exchange Ask Reply} (h : e.forgets = true) : e = ⟨.forget, ()⟩ := by
  obtain ⟨q, r⟩ := e
  cases q with
  | forget => rfl
  | _ => cases h

lemma writes_of_quiet {e : Exchange Ask Reply} (h : e.quiet = true) : e.writes = false := by
  rw [quiet, Bool.and_eq_true, Bool.not_eq_true', Bool.not_eq_true'] at h
  exact h.1

lemma forgets_of_quiet {e : Exchange Ask Reply} (h : e.quiet = true) : e.forgets = false := by
  rw [quiet, Bool.and_eq_true, Bool.not_eq_true', Bool.not_eq_true'] at h
  exact h.2

/-- A quiet line has stored nothing. -/
lemma stores_of_quiet {e : Exchange Ask Reply} (h : e.quiet = true) : e.stores = false := by
  rw [Bool.eq_false_iff]
  intro hstores
  have hwrites := writes_of_stores hstores
  rw [writes_of_quiet h] at hwrites
  cases hwrites

end Exchange

namespace SettingsFault

/-- Whether a fault is one of reading: an answer is missing, or nothing can be made of it. -/
def isReading : SettingsFault → Bool
  | read _ _ _ => true
  | decode _ _ _ => true
  | _ => false

/-- Whether a fault is that of a refused write. -/
def isWriting : SettingsFault → Bool
  | write _ _ _ _ => true
  | _ => false

/-- No fault is one of reading and of writing. -/
lemma isWriting_of_isReading {fault : SettingsFault} (h : fault.isReading = true) :
    fault.isWriting = false := by
  cases fault with
  | write _ _ _ _ => cases h
  | _ => rfl

/-- Whose answers are missing is not to blame for it. -/
lemma isClientFault_of_isReading {fault : SettingsFault} (h : fault.isReading = true) :
    fault.isClientFault = false := by
  cases fault with
  | read _ _ _ => rfl
  | decode _ _ _ => rfl
  | _ => cases h

/-- Whose writes are refused is not to blame for it either. -/
lemma isClientFault_of_isWriting {fault : SettingsFault} (h : fault.isWriting = true) :
    fault.isClientFault = false := by
  cases fault with
  | write _ _ _ _ => rfl
  | _ => cases h

end SettingsFault

namespace Settings

/-- A question of a procedure and its reply. -/
abbrev Line := Exchange Ask Reply

variable {α β : Type}

/-! ## Accounts -/

/-- With these lines a procedure comes to this result. -/
def Tells (p : Procedure α) (es : List Line) (result : Except SettingsFault α) : Prop :=
  Dialogue.Ends p.run es result

lemma tells_pure {a : α} {es : List Line} {result : Except SettingsFault α} :
    Tells (pure a) es result ↔ es = [] ∧ result = .ok a :=
  Dialogue.ends_run_pure

lemma tells_throw {fault : SettingsFault} {es : List Line} {result : Except SettingsFault α} :
    Tells (throw fault) es result ↔ es = [] ∧ result = .error fault :=
  Dialogue.ends_run_throw

/-- A question is a line of its own, with any reply. -/
lemma tells_ask {q : Ask} {es : List Line} {result : Except SettingsFault (Reply q)} :
    Tells (ask q) es result ↔ ∃ r, es = [⟨q, r⟩] ∧ result = .ok r :=
  Dialogue.ends_run_lift

/-- **A sequence ends with a fault of its first part, or goes on with the second.** -/
theorem tells_bind {p : Procedure α} {f : α → Procedure β} {es : List Line}
    {result : Except SettingsFault β} :
    Tells (p >>= f) es result ↔
      (∃ fault, Tells p es (.error fault) ∧ result = .error fault) ∨
        ∃ first a second, es = first ++ second ∧ Tells p first (.ok a) ∧
          Tells (f a) second result :=
  Dialogue.ends_run_bind

/-- What went through has gone through part by part. -/
lemma tells_bind_ok {p : Procedure α} {f : α → Procedure β} {es : List Line} {b : β} :
    Tells (p >>= f) es (.ok b) ↔
      ∃ first a second, es = first ++ second ∧ Tells p first (.ok a) ∧
        Tells (f a) second (.ok b) := by
  rw [tells_bind]
  constructor
  · rintro (⟨fault, -, hfault⟩ | h)
    · cases hfault
    · exact h
  · exact .inr

/-- A confirmation asks what its read asks, and ends without a fault. -/
lemma run_confirm (what : String) (read : Procedure α) :
    (confirm what read).run = read.run >>= fun
      | .ok value => pure (.ok (.confirmed value))
      | .error _ => pure (.ok (.unconfirmed what)) := by
  have hrun : (confirm what read).run =
      (read >>= fun value => pure (.confirmed value)).run >>= fun
        | .ok outcome => pure (.ok outcome)
        | .error _ => pure (.ok (.unconfirmed what)) := by
    refine congrArg (Dialogue.bind _) (funext fun result => ?_)
    cases result <;> rfl
  rw [hrun, ExceptT.run_bind, bind_assoc]
  refine bind_congr fun result => ?_
  cases result <;> rfl

/-- A read that confirms an update cannot fail any more. -/
lemma tells_confirm {what : String} {read : Procedure α} {es : List Line}
    {result : Except SettingsFault (Confirmation α)} :
    Tells (confirm what read) es result ↔
      (∃ value, Tells read es (.ok value) ∧ result = .ok (.confirmed value)) ∨
        ∃ fault, Tells read es (.error fault) ∧ result = .ok (.unconfirmed what) := by
  rw [Tells, run_confirm]
  refine Dialogue.ends_bind.trans ?_
  constructor
  · rintro ⟨first, outcome, second, rfl, hfirst, hsecond⟩
    cases outcome with
    | ok value =>
        obtain ⟨rfl, rfl⟩ := Dialogue.ends_done.mp hsecond
        rw [List.append_nil]
        exact .inl ⟨value, hfirst, rfl⟩
    | error fault =>
        obtain ⟨rfl, rfl⟩ := Dialogue.ends_done.mp hsecond
        rw [List.append_nil]
        exact .inr ⟨fault, hfirst, rfl⟩
  · rintro (⟨value, hvalue, rfl⟩ | ⟨fault, hfault, rfl⟩)
    · exact ⟨es, .ok value, [], (List.append_nil es).symm, hvalue, .stay _⟩
    · exact ⟨es, .error fault, [], (List.append_nil es).symm, hfault, .stay _⟩

/-- Only a read that went through confirms anything. -/
lemma tells_of_confirmed {what : String} {read : Procedure α} {es : List Line} {value : α}
    (h : Tells (confirm what read) es (.ok (.confirmed value))) : Tells read es (.ok value) := by
  rcases tells_confirm.mp h with ⟨value', hvalue, heq⟩ | ⟨fault, -, heq⟩
  · cases heq
    exact hvalue
  · cases heq

/-! ## Facts about every account -/

/-- A fact about every account of a procedure. -/
def Always (P : List Line → Prop) (p : Procedure α) : Prop :=
  ∀ es result, Tells p es result → P es

/-- A fact about accounts that a sequence inherits from its parts. -/
structure Lasting (P : List Line → Prop) : Prop where
  nil : P []
  append {es es'} : P es → P es' → P (es ++ es')

/-- What holds of each line holds of joined accounts. -/
lemma Lasting.lines (P : Line → Prop) : Lasting fun es => ∀ e ∈ es, P e where
  nil _ he := absurd he List.not_mem_nil
  append hes hes' e he := by
    simp only [List.mem_append] at he
    rcases he with he | he
    · exact hes e he
    · exact hes' e he

namespace Always

variable {P Q : List Line → Prop}

lemma mono {p : Procedure α} (h : Always P p) (himp : ∀ es, P es → Q es) : Always Q p :=
  fun es result htells => himp es (h es result htells)

lemma pure (hP : Lasting P) (a : α) : Always P (pure a) := by
  intro es result h
  obtain ⟨rfl, rfl⟩ := tells_pure.mp h
  exact hP.nil

lemma throw (hP : Lasting P) (fault : SettingsFault) :
    Always P (throw fault : Procedure α) := by
  intro es result h
  obtain ⟨rfl, rfl⟩ := tells_throw.mp h
  exact hP.nil

lemma ask {q : Ask} (h : ∀ r, P [⟨q, r⟩]) : Always P (ask q) := by
  intro es result htells
  obtain ⟨r, rfl, rfl⟩ := tells_ask.mp htells
  exact h r

/-- A lasting fact about both parts is one about the sequence. -/
lemma bind (hP : Lasting P) {p : Procedure α} {f : α → Procedure β} (hp : Always P p)
    (hf : ∀ a, Always P (f a)) : Always P (p >>= f) := by
  intro es result h
  rcases tells_bind.mp h with ⟨fault, hfault, -⟩ | ⟨first, a, second, rfl, hfirst, hsecond⟩
  · exact hp es _ hfault
  · exact hP.append (hp first _ hfirst) (hf a second _ hsecond)

/-- A confirmation says nothing that its read does not. -/
lemma confirm {p : Procedure α} (hp : Always P p) (what : String) :
    Always P (confirm what p) := by
  intro es result h
  rcases tells_confirm.mp h with ⟨value, hvalue, -⟩ | ⟨fault, hfault, -⟩
  · exact hp es _ hvalue
  · exact hp es _ hfault

end Always

/-! ## Faults -/

/-- Every fault that a procedure can end with is of a kind. -/
def Throws (F : SettingsFault → Prop) (p : Procedure α) : Prop :=
  ∀ es fault, Tells p es (.error fault) → F fault

namespace Throws

variable {F G : SettingsFault → Prop}

lemma mono {p : Procedure α} (h : Throws F p) (himp : ∀ fault, F fault → G fault) : Throws G p :=
  fun es fault htells => himp fault (h es fault htells)

lemma pure (a : α) : Throws F (pure a) := by
  intro es fault h
  cases (tells_pure.mp h).2

lemma throw {fault : SettingsFault} (h : F fault) : Throws F (throw fault : Procedure α) := by
  intro es fault' htells
  obtain rfl := Except.error.inj (tells_throw.mp htells).2
  exact h

lemma ask (q : Ask) : Throws F (ask q) := by
  intro es fault h
  obtain ⟨_, -, hok⟩ := tells_ask.mp h
  cases hok

/-- A sequence throws what its parts throw. -/
lemma bind {p : Procedure α} {f : α → Procedure β} (hp : Throws F p) (hf : ∀ a, Throws F (f a)) :
    Throws F (p >>= f) := by
  intro es fault h
  rcases tells_bind.mp h with ⟨fault', hfault, heq⟩ | ⟨first, a, second, rfl, -, hsecond⟩
  · obtain rfl := Except.error.inj heq
    exact hp es fault hfault
  · exact hf a second fault hsecond

/-- A confirmation throws nothing. -/
lemma confirm (p : Procedure α) (what : String) : Throws F (confirm what p) := by
  intro es fault h
  rcases tells_confirm.mp h with ⟨_, -, hok⟩ | ⟨_, -, hok⟩
  · cases hok
  · cases hok

end Throws

/-! ## Results -/

/-- The value of a talk that has ended without a fault. -/
def valueOf : Dialogue Ask Reply (Except SettingsFault α) → Option α
  | .done (.ok a) => some a
  | _ => none

lemma valueOf_eq_some {d : Dialogue Ask Reply (Except SettingsFault α)} {a : α} :
    valueOf d = some a ↔ d = .done (.ok a) := by
  constructor
  · intro h
    cases d with
    | done result => cases result <;> simp_all [valueOf]
    | ask q next => cases h
  · rintro rfl
    rfl

end Settings

end ChargeController
