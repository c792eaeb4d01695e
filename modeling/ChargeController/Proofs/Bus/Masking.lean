import ChargeController.Proofs.Bus.Attempts
import ChargeController.Proofs.Bus.Rows

/-!
# Failures that pass

A device may be told to fail a number of times at an address.  If that is less often than a client
tries, the client does not let it through: a request ends as it would on a device that was told
nothing, and leaves the same registers behind.

* `Device.comply` — what a device does with a request, its rules aside.
* **`Device.comply_twice`** — a request that is carried out once more changes nothing.
* `Session.Masks` — what comes to the same on devices that are alike but for failures that pass.
* **`Session.Command.masks`** — requests through a client do.
-/

namespace ChargeController

open Dialogue

/-! ## Devices with rules -/

namespace Device

/-- What a device does with a request unless it was told to fail. -/
def comply (d : Device) (r : Request) : Answer × Device :=
  ((d.perform r).2.override r <$> (d.perform r).1, (d.perform r).2)

/-- The same device without rules, and as if it had received nothing. -/
def unruled (d : Device) : Device :=
  { d with failures := fun _ => none, received := [] }

/-- Every rule of a device is for requests of any kind, and used up before so many of them. -/
def Passing (n : Nat) (d : Device) : Prop :=
  ∀ a rule, d.failures a = some rule →
    rule.writesOnly = false ∧ ∃ times < n, rule.remaining = some times

/-- How many more requests that start at an address will fail. -/
def pending (d : Device) (a : UInt16) : Nat :=
  ((d.failures a).bind (·.remaining)).getD 0

section

variable {d : Device} {r : Request} {n times : Nat}

/-- **A request that is carried out once more changes nothing** and is answered as before. -/
theorem comply_twice (d : Device) (r : Request) : (d.comply r).2.comply r = d.comply r := by
  have htwice : (d.perform r).2.perform r = d.perform r := by
    cases r with
    | read t a q => cases t <;> rfl
    | writeWord a value =>
        simp only [perform]
        rw [put_eq_self (put_same ..)]
    | writeWords a words =>
        simp only [perform]
        rw [writeRow_twice]
  simp only [comply]
  rw [htwice]

lemma comply_delay (d : Device) (r : Request) : (d.comply r).2.delay = d.delay := by
  cases r with
  | read t a q => cases t <;> rfl
  | writeWord a value => rfl
  | writeWords a words => rfl

lemma comply_failures (d : Device) (r : Request) : (d.comply r).2.failures = d.failures := by
  cases r with
  | read t a q => cases t <;> rfl
  | writeWord a value => rfl
  | writeWords a words => rfl

lemma banks_of_unruled {d' : Device} (h : d.unruled = d'.unruled) :
    d.input = d'.input ∧ d.holding = d'.holding ∧ d.coils = d'.coils ∧
      d.discrete = d'.discrete := by
  simp only [unruled, mk.injEq] at h
  exact ⟨h.1, h.2.1, h.2.2.1, h.2.2.2.1⟩

/-- Rules have no part in what a device does otherwise. -/
lemma comply_unruled (d : Device) (r : Request) :
    d.unruled.comply r = ((d.comply r).1, (d.comply r).2.unruled) := by
  cases r with
  | read t a q => cases t <;> rfl
  | writeWord a value => rfl
  | writeWords a words => rfl

lemma Passing.congr {d' : Device} (h : d.Passing n) (hsame : d'.failures = d.failures) :
    d'.Passing n := by
  intro a rule hrule
  rw [hsame] at hrule
  exact h a rule hrule

/-- A device that is told to fail a number of times at an address fails in passing. -/
lemma Passing.failNext (h : d.Passing n) (a : UInt16) (htimes : times < n) :
    (d.failNext a times).Passing n := by
  intro a' rule hrule
  by_cases ha : a' = a
  · rw [ha] at hrule
    obtain rfl := Option.some.inj ((put_same ..).symm.trans hrule)
    exact ⟨rfl, times, htimes, rfl⟩
  · exact h a' rule ((put_of_ne ha).symm.trans hrule)

lemma Passing.pending_lt (h : d.Passing n) (hn : 0 < n) (a : UInt16) : d.pending a < n := by
  rw [pending]
  cases hrule : d.failures a with
  | none => exact hn
  | some rule =>
      obtain ⟨-, times, htimes, hremaining⟩ := h a rule hrule
      show rule.remaining.getD 0 < n
      rw [hremaining]
      exact htimes

/-- A device does as it is asked at an address where it will not fail any more. -/
lemma respond_of_not_pending (h : d.Passing n) (hnone : d.pending r.address = 0) :
    ∃ d', d.respond r = ((d.unruled.comply r).1, d') ∧ d'.unruled = (d.unruled.comply r).2 ∧
      d'.Passing n ∧ d'.pending r.address = 0 := by
  let noted := { d with received := r :: d.received }
  have huse : useRule noted r = (false, noted) := by
    simp only [useRule]
    cases hrule : noted.failures r.address with
    | none => rfl
    | some rule =>
        obtain ⟨hany, times, -, hremaining⟩ := h _ _ hrule
        rw [pending, show d.failures r.address = some rule from hrule, Option.bind_some,
          hremaining] at hnone
        obtain rfl : times = 0 := hnone
        simp only [hany, hremaining, Bool.false_and, Bool.false_eq_true, if_false]
  have hcomply : d.unruled.comply r = ((noted.comply r).1, (noted.comply r).2.unruled) :=
    comply_unruled noted r
  have hfailures := comply_failures noted r
  rw [hcomply]
  refine ⟨(noted.comply r).2, ?_, rfl, h.congr hfailures, ?_⟩
  · simp only [respond]
    rw [huse]
    rfl
  · rw [pending, hfailures]
    exact hnone

/-- A device that is to fail once more uses up one failure, and does nothing else. -/
lemma respond_of_pending (h : d.Passing n) (hsome : d.pending r.address = times + 1) :
    ∃ d', d.respond r = (.error (.device (.scripted r)), d') ∧ d'.unruled = d.unruled ∧
      d'.Passing n ∧ d'.pending r.address = times := by
  cases hrule : d.failures r.address with
  | none =>
      rw [pending, hrule] at hsome
      cases hsome
  | some rule =>
      obtain ⟨hany, left, hleft, hremaining⟩ := h _ _ hrule
      rw [pending, hrule, Option.bind_some, hremaining] at hsome
      obtain rfl : left = times + 1 := hsome
      let noted := { d with received := r :: d.received }
      let failed := { noted with failures := put d.failures r.address (some ⟨some times, false⟩) }
      have huse : useRule noted r = (true, failed) := by
        simp only [useRule, noted, hrule, hany, hremaining, Bool.false_and, Bool.false_eq_true,
          if_false]
        rfl
      refine ⟨failed, ?_, rfl, fun a other hother => ?_, ?_⟩
      · simp only [respond]
        rw [huse]
        rfl
      · by_cases ha : a = r.address
        · have hrest : some ⟨some times, false⟩ = some other := by
            rw [← hother, ha]
            exact (put_same ..).symm
          obtain rfl := Option.some.inj hrest
          exact ⟨rfl, times, Nat.lt_of_succ_lt hleft, rfl⟩
        · exact h a other ((put_of_ne ha).symm.trans hother)
      · have hput : failed.failures r.address = some ⟨some times, false⟩ := put_same ..
        rw [pending, hput]
        rfl

end

end Device

namespace Session

/-! ## One request -/

/-- The connection to a scripted device. -/
def Connection.scripted : Connection Device where
  begin d := (d.delay, d)
  answer := Device.respond

section

variable {timeout delay n : Nat} {d : Device} {b : Bench} {r : Request}

lemma Connection.attempt_scripted (hfast : d.delay ≤ timeout) :
    Connection.scripted.attempt timeout d r = d.respond r :=
  if_pos hfast

/-- A request that is tried often enough comes to what it would on a device without rules. -/
lemma play_masked (self queue : Nat) (hopen : b.link.closed = false) (hfast : d.delay ≤ timeout)
    (hpassing : d.Passing n) (more : Nat) (hmore : d.pending r.address ≤ more) :
    ∃ d' b', (play (aloneWithClient .scripted self queue timeout) (d, b)
        (Client.tryRequest delay r more)).2 = ((d.unruled.comply r).1, d', b') ∧
      d'.unruled = (d.unruled.comply r).2 ∧ d'.Passing n ∧ b'.link.closed = false := by
  induction more generalizing d b with
  | zero =>
      obtain ⟨d', hanswer, halike, hpassing', -⟩ :=
        Device.respond_of_not_pending hpassing (Nat.le_zero.mp hmore)
      refine ⟨d', b.later (min d.delay timeout), ?_, halike, hpassing', hopen⟩
      rw [play_tryRequest hopen, Connection.attempt_scripted hfast, hanswer]
      cases (d.unruled.comply r).1 with
      | ok data => rfl
      | error fault => rfl
  | succ more ih =>
      cases hpending : d.pending r.address with
      | zero =>
          obtain ⟨d', hanswer, halike, hpassing', hnone⟩ :=
            Device.respond_of_not_pending hpassing hpending
          cases hgenuine : (d.unruled.comply r).1 with
          | ok data =>
              refine ⟨d', b.later (min d.delay timeout), ?_, halike, hpassing', hopen⟩
              rw [play_tryRequest hopen, Connection.attempt_scripted hfast, hanswer, hgenuine]
              rfl
          | error fault =>
              -- an error of the device itself comes again, until the attempts are used up
              have hfast' : d'.delay ≤ timeout := by
                have hdelay : d'.unruled.delay = d.unruled.delay := by
                  rw [halike, Device.comply_delay]
                exact hdelay.symm ▸ hfast
              obtain ⟨d'', b', hplay, halike', hpassing'', hopen'⟩ :=
                ih (b := (b.later (min d.delay timeout)).later delay) hopen hfast' hpassing'
                  (hnone ▸ Nat.zero_le _)
              rw [halike, Device.comply_twice, hgenuine] at hplay
              rw [halike, Device.comply_twice] at halike'
              refine ⟨d'', b', ?_, halike', hpassing'', hopen'⟩
              have hanswer' := (Connection.attempt_scripted hfast).trans hanswer
              rw [play_again hopen (by rw [hanswer', hgenuine]), hanswer']
              exact hplay
      | succ times =>
          obtain ⟨d', hanswer, halike, hpassing', hleft⟩ :=
            Device.respond_of_pending hpassing hpending
          have hfast' : d'.delay ≤ timeout := by
            have hdelay : d'.unruled.delay = d.unruled.delay := by rw [halike]
            exact hdelay.symm ▸ hfast
          obtain ⟨d'', b', hplay, halike', hpassing'', hopen'⟩ :=
            ih (b := (b.later (min d.delay timeout)).later delay) hopen hfast' hpassing'
              (by omega)
          rw [halike] at hplay halike'
          refine ⟨d'', b', ?_, halike', hpassing'', hopen'⟩
          have hanswer' := (Connection.attempt_scripted hfast).trans hanswer
          rw [play_again hopen (by rw [hanswer']), hanswer']
          exact hplay

/-- A request through a client comes to what it would on a device without rules. -/
lemma play_transport_masked {s : LinkSettings} (self queue : Nat) (r : Request)
    (hopen : b.link.closed = false) (hfast : d.delay ≤ s.timeout)
    (hpassing : d.Passing (Retries.ofSettings s).attempts) :
    ∃ d' b', (play (alone .scripted self queue) (d, b) (transport (some s) r)).2 =
        ((d.unruled.comply r).1, d', b') ∧
      d'.unruled = (d.unruled.comply r).2 ∧ d'.Passing (Retries.ofSettings s).attempts ∧
      b'.link.closed = false := by
  have hpending : d.pending r.address ≤ max s.retryAttempts 1 - 1 :=
    Nat.le_sub_one_of_lt (hpassing.pending_lt (Nat.lt_of_lt_of_le Nat.one_pos (le_max_right ..)) _)
  obtain ⟨d', b', hplay, halike, hpassing', hopen'⟩ := play_masked self queue
    (b := { b with link := b.link.acquire self }.later queue) hopen hfast hpassing _ hpending
  refine ⟨d', b'.leave self, ?_, halike, hpassing', (leave_keeps b' self).2.trans hopen'⟩
  rw [play_transport hopen]
  dsimp only
  rw [hplay]

end

/-! ## Requests of any kind -/

/-- Two benches, each with its scripted device: the devices are alike but for rules that let a
client through, and neither client is closed. -/
structure Alike (s : LinkSettings) (x y : Device × Bench) : Prop where
  unruled : x.1.unruled = y.1.unruled
  fast : x.1.delay ≤ s.timeout
  passing : x.1.Passing (Retries.ofSettings s).attempts
  passing' : y.1.Passing (Retries.ofSettings s).attempts
  isOpen : x.2.link.closed = false
  isOpen' : y.2.link.closed = false

/-- Of a bench itself, only the link counts. -/
lemma Alike.congr {s : LinkSettings} {x y : Device × Bench} (h : Alike s x y) {b b' : Bench}
    (hlink : b.link = x.2.link) (hlink' : b'.link = y.2.link) : Alike s (x.1, b) (y.1, b') :=
  { h with
    isOpen := (congrArg Link.closed hlink).trans h.isOpen
    isOpen' := (congrArg Link.closed hlink').trans h.isOpen' }

/-- What comes to the same on benches that are alike, and leaves them alike. -/
def Masks {α : Type} (s : LinkSettings) (self queue : Nat) (t : Talk α) : Prop :=
  ∀ x y, Alike s x y →
    (play (alone .scripted self queue) x t).2.1 = (play (alone .scripted self queue) y t).2.1 ∧
      Alike s (play (alone .scripted self queue) x t).2.2
        (play (alone .scripted self queue) y t).2.2

namespace Masks

variable {α β : Type} {s : LinkSettings} {self queue : Nat}

lemma pure (a : α) : Masks s self queue (Pure.pure a : Talk α) :=
  fun _ _ h => ⟨rfl, h⟩

lemma bind {t : Talk α} {f : α → Talk β} (ht : Masks s self queue t)
    (hf : ∀ a, Masks s self queue (f a)) : Masks s self queue (t >>= f) := by
  intro x y h
  obtain ⟨hsame, hafter⟩ := ht x y h
  have hx := play_bind (alone .scripted self queue) x t f
  have hy := play_bind (alone .scripted self queue) y t f
  rw [hsame] at hx
  show (play _ x (t.bind f)).2.1 = (play _ y (t.bind f)).2.1 ∧
    Alike s (play _ x (t.bind f)).2.2 (play _ y (t.bind f)).2.2
  rw [hx, hy]
  exact hf _ _ _ hafter

lemma map {t : Talk α} (f : α → β) (ht : Masks s self queue t) : Masks s self queue (f <$> t) := by
  rw [← bind_pure_comp]
  exact ht.bind fun a => pure (f a)

lemma transport (r : Request) : Masks s self queue (transport (some s) r) := by
  intro x y h
  have hfast : y.1.delay ≤ s.timeout := by
    have hdelay : x.1.unruled.delay = y.1.unruled.delay := by rw [h.unruled]
    exact hdelay ▸ h.fast
  obtain ⟨d, b, hplay, halike, hpassing, hopen⟩ :=
    play_transport_masked self queue r h.isOpen h.fast h.passing
  obtain ⟨d', b', hplay', halike', hpassing', hopen'⟩ :=
    play_transport_masked self queue r h.isOpen' hfast h.passing'
  have hsame : d.unruled = d'.unruled := by rw [halike, halike', h.unruled]
  have hfast' : d.delay ≤ s.timeout := by
    have hdelay : d.unruled.delay = x.1.unruled.delay := by rw [halike, Device.comply_delay]
    exact hdelay.symm ▸ h.fast
  rw [hplay, hplay', h.unruled]
  exact ⟨rfl, hsame, hfast', hpassing, hpassing', hopen, hopen'⟩

end Masks

/-- Whether a command is a request to the device. -/
def Command.IsRequest : Command → Prop
  | .read _ _ _ => True
  | .writeWord _ _ => True
  | .writeBlock _ _ _ => True
  | _ => False

/-- **A request masks failures that pass**, whatever kind of request it is. -/
theorem Command.masks {c : Controller} {s : LinkSettings} (hclient : c.client = some s)
    {x : Command} (hx : x.IsRequest) (self queue : Nat) : Masks s self queue (x.talk c) := by
  cases x with
  | read t a q =>
      show Masks s self queue (Outcome.read <$> Session.transport c.client _)
      rw [hclient]
      exact (Masks.transport _).map _
  | writeWord a value =>
      show Masks s self queue (Outcome.written <$> Session.transport c.client _)
      rw [hclient]
      exact (Masks.transport _).map _
  | writeBlock a q data =>
      show Masks s self queue (Outcome.written <$> writeBlockTalk c.client a q data)
      rw [hclient, writeBlockTalk]
      split
      · exact (Masks.transport _).map _
      · exact (Masks.pure _).map _
  | _ => exact hx.elim

end Session

end ChargeController
