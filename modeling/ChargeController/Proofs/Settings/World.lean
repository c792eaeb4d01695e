import ChargeController.Proofs.Bus.Rows
import ChargeController.Proofs.Dialogue.Transcript
import ChargeController.Settings.Procedure

/-!
# What surrounds a request about the configuration

A procedure talks to a device, a cache and a counter.  The cache and the counter do what they
always do, at a time that only goes forward; the device is left open, as any relation between its
state before a request, the answer and its state after it.  A statement about all worlds therefore
covers every device, every link and every delay.

* `World.Replies` — the replies of a world around a given kind of device.
* `Registers.Answers` — the device whose holding registers change by accepted writes only.
* `World.serve` — a world that has exactly one reply to each question.
* **`Device.respond_answers`** — a scripted device without replaced answers is such a device.
-/

namespace ChargeController

namespace Settings

/-! ## Worlds -/

/-- A kind of device: in which state a request gets which answer, and the state after it. -/
abbrev Answering (D : Type) : Type :=
  D → Request → Answer → D → Prop

/-- A device with the cache and the counter in front of it, at a time in milliseconds. -/
structure World (D : Type) where
  device : D
  cache : Cache
  now : Nat
  writeFailures : Nat

/-- How a world replies.  Before each reply any time may pass. -/
inductive World.Replies {D : Type} (device : Answering D) (ttl : Nat) :
    Dialogue.Surroundings (World D) Ask Reply
  | send {w r a d t} (answer : device w.device r a d) (later : w.now ≤ t) :
      World.Replies device ttl w (.send r) a { w with device := d, now := t }
  | lookUp {w t} (later : w.now ≤ t) :
      World.Replies device ttl w .lookUp (w.cache.lookUp t ttl) { w with now := t }
  | keep {w g c t} (later : w.now ≤ t) :
      World.Replies device ttl w (.keep g c) () { w with cache := w.cache.keep g c t, now := t }
  | forget {w t} (later : w.now ≤ t) :
      World.Replies device ttl w .forget () { w with cache := w.cache.forget, now := t }
  | count {w t} (later : w.now ≤ t) :
      World.Replies device ttl w .countWriteFailure ()
        { w with writeFailures := w.writeFailures + 1, now := t }

namespace Registers

/-! ## Registers that only writes change -/

/-- What an accepted request leaves in the holding registers. -/
def written (b : Bank) : Request → Bank
  | .read _ _ _ => b
  | .writeWord address value => Device.put b address (some value)
  | .writeWords address words => (Device.writeRow b address 0 words).1

/-- Whether the holding registers have a place for all that a request writes. -/
def Fits (b : Bank) : Request → Prop
  | .read _ _ _ => True
  | .writeWord _ _ => True
  | .writeWords address words => (Device.writeRow b address 0 words).2 = .ok ()

/-- A device whose holding registers are read as they are and changed by accepted writes only.
The requests for which `mayFail` holds may also fail, for any reason, and then change nothing. -/
inductive Answers (mayFail : Request → Prop) : Answering Bank
  | fail {b r fault} (allowed : mayFail r) : Answers mayFail b r (.error fault) b
  | holding {b a q} :
      Answers mayFail b (.read .holding a q)
        (Register.bytesOfWords <$> Device.readRegisters b none a q) b
  | elsewhere {b t a q answer} (other : t ≠ .holding) : Answers mayFail b (.read t a q) answer b
  | accept {b r data} (write : r.isWrite = true) (fits : Fits b r) :
      Answers mayFail b r (.ok data) (written b r)
  | overflow {b r fault} (write : r.isWrite = true) (full : ¬ Fits b r) :
      Answers mayFail b r (.error fault) b

/-- The registers after a request with a given answer. -/
def leftBy (b : Bank) (r : Request) : Answer → Bank
  | .ok _ => written b r
  | .error _ => b

lemma leftBy_read (b : Bank) (t : Table) (a q : UInt16) (answer : Answer) :
    leftBy b (.read t a q) answer = b := by
  cases answer with
  | ok data => rfl
  | error fault => rfl

/-- **Only an accepted write changes the registers.** -/
theorem Answers.change {mayFail : Request → Prop} {b b' : Bank} {r : Request} {answer : Answer}
    (h : Answers mayFail b r answer b') : b' = leftBy b r answer := by
  cases h with
  | fail _ => rfl
  | holding => exact (leftBy_read ..).symm
  | elsewhere _ => exact (leftBy_read ..).symm
  | accept _ _ => rfl
  | overflow _ _ => rfl

theorem Answers.read {mayFail : Request → Prop} {b b' : Bank} {a q : UInt16} {data : Bytes}
    (h : Answers mayFail b (.read .holding a q) (.ok data) b') :
    ∃ words, Device.readRegisters b none a q = .ok words ∧ data = Register.bytesOfWords words := by
  generalize hanswer : (.ok data : Answer) = answer at h
  cases h with
  | fail _ => cases hanswer
  | holding =>
      cases hwords : Device.readRegisters b none a q with
      | error fault =>
          rw [hwords] at hanswer
          cases hanswer
      | ok words =>
          rw [hwords] at hanswer
          cases hanswer
          exact ⟨words, rfl, rfl⟩
  | elsewhere other => exact absurd rfl other
  | accept write _ => cases write
  | overflow _ _ => cases hanswer

/-! ## Registers that answer for themselves -/

/-- The answer of registers that fail some requests, and the registers after it. -/
def answer (fails : Request → Bool) (b : Bank) (r : Request) : Answer × Bank :=
  if fails r then (.error .closed, b)
  else
    match r with
    | .read .holding a q => (Register.bytesOfWords <$> Device.readRegisters b none a q, b)
    | .read _ _ _ => (.ok [], b)
    | .writeWord address value => (.ok [], Device.put b address (some value))
    | .writeWords address words =>
        match Device.writeRow b address 0 words with
        | (row, .ok ()) => (.ok [], row)
        | (_, .error fault) => (.error fault, b)

lemma answer_answers {mayFail : Request → Prop} {fails : Request → Bool}
    (hfails : ∀ r, fails r = true → mayFail r) (b : Bank) (r : Request) :
    Answers mayFail b r (answer fails b r).1 (answer fails b r).2 := by
  cases hr : fails r with
  | true =>
      simp only [answer]
      rw [if_pos hr]
      exact .fail (hfails r hr)
  | false =>
      simp only [answer]
      rw [if_neg (by rw [hr]; exact Bool.false_ne_true)]
      cases r with
      | read t a q =>
          cases t with
          | holding => exact .holding
          | coil => exact .elsewhere fun h => by cases h
          | discreteInput => exact .elsewhere fun h => by cases h
          | input => exact .elsewhere fun h => by cases h
      | writeWord a value => exact .accept rfl trivial
      | writeWords a words =>
          dsimp only
          split
          · next row hrow =>
              have haccept : Answers mayFail b (.writeWords a words) (.ok [])
                  (written b (.writeWords a words)) := .accept rfl (by rw [Fits, hrow])
              rwa [written, hrow] at haccept
          · next row fault hrow =>
              refine .overflow rfl ?_
              rw [Fits, hrow]
              exact fun h => by cases h

end Registers

/-- A world of registers that replies at once. -/
def World.serve (fails : Request → Bool) (ttl : Nat) (w : World Bank) :
    (q : Ask) → Reply q × World Bank
  | .send r =>
      ((Registers.answer fails w.device r).1,
        { w with device := (Registers.answer fails w.device r).2 })
  | .lookUp => (w.cache.lookUp w.now ttl, w)
  | .keep generation config => ((), { w with cache := w.cache.keep generation config w.now })
  | .forget => ((), { w with cache := w.cache.forget })
  | .countWriteFailure => ((), { w with writeFailures := w.writeFailures + 1 })

/-- **A world that replies at once is a world.** -/
theorem World.serve_replies {mayFail : Request → Prop} {fails : Request → Bool}
    (hfails : ∀ r, fails r = true → mayFail r) (ttl : Nat) (w : World Bank) (q : Ask) :
    World.Replies (Registers.Answers mayFail) ttl w q (w.serve fails ttl q).1
      (w.serve fails ttl q).2 := by
  cases q with
  | send r => exact .send (Registers.answer_answers hfails w.device r) (Nat.le_refl _)
  | lookUp => exact .lookUp (Nat.le_refl _)
  | keep g c => exact .keep (Nat.le_refl _)
  | forget => exact .forget (Nat.le_refl _)
  | countWriteFailure => exact .count (Nat.le_refl _)

lemma World.serve_all (ttl : Nat) (w : World Bank) (q : Ask) :
    World.Replies (Registers.Answers fun _ => False) ttl w q (w.serve (fun _ => false) ttl q).1
      (w.serve (fun _ => false) ttl q).2 :=
  World.serve_replies (fun _ h => Bool.false_ne_true h) ttl w q

/-- Registers with a user-defined battery type and thresholds in order. -/
def Registers.sample : Bank :=
  fun a => List.lookup a [
    (0x9000, 4), (0x9001, 200), (0x9002, 300),
    (0x9003, 1600), (0x9004, 1500), (0x9005, 1500), (0x9006, 1460), (0x9007, 1440), (0x9008, 1380),
    (0x9009, 1320), (0x900A, 1260), (0x900B, 1220), (0x900C, 1200), (0x900D, 1110), (0x900E, 1060),
    (0x9013, 0x1E00), (0x9014, 0x0F0C), (0x9015, 0x1806), (0x9016, 30),
    (0x9017, 6500), (0x9018, 61536), (0x9019, 8500), (0x901A, 7500), (0x906B, 120), (0x906C, 120)]

/-- These registers behind an empty cache. -/
def World.sample : World Bank :=
  ⟨Registers.sample, .empty, 0, 0⟩

/-- The same with a sealed battery. -/
def World.sealed : World Bank :=
  ⟨Device.put Registers.sample Register.batteryType.address (some 1), .empty, 0, 0⟩

end Settings

namespace Device

open Settings

/-- The holding registers of a device as they read: a missing one reads as the script says. -/
def readable (d : Device) : Bank :=
  fun a => d.holding a <|> d.fill

lemma readRegisters_readable (d : Device) (address quantity : UInt16) :
    readRegisters d.readable none address quantity =
      readRegisters d.holding d.fill address quantity :=
  readRegisters_filled d.holding d.fill address quantity

lemma readable_put {d : Device} {holding : Bank} (address value : UInt16)
    (h : holding = put d.holding address (some value)) :
    { d with holding }.readable = put d.readable address (some value) := by
  subst h
  funext a
  unfold readable put
  dsimp only
  split
  · rfl
  · rfl

lemma writeRow_readable (d : Device) (holding : Bank) (address : UInt16) (offset : Nat)
    (words : List UInt16) :
    writeRow { d with holding }.readable address offset words =
      ({ d with holding := (writeRow holding address offset words).1 }.readable,
        (writeRow holding address offset words).2) := by
  induction words generalizing holding offset with
  | nil => rfl
  | cons w rest ih =>
      simp only [writeRow]
      split
      · rfl
      · next a _ =>
          rw [← ih]
          congr 1
          exact (readable_put (d := { d with holding }) a w rfl).symm

lemma useRule_banks (d : Device) (r : Request) :
    (d.useRule r).2.holding = d.holding ∧ (d.useRule r).2.fill = d.fill ∧
      (d.useRule r).2.overrides = d.overrides := by
  rw [useRule_device]
  exact ⟨rfl, rfl, rfl⟩

lemma perform_answers (d : Device) (r : Request) (hfits : Registers.Fits d.readable r) :
    Registers.Answers (fun _ => True) d.readable r (d.perform r).1 (d.perform r).2.readable := by
  cases r with
  | read t a q =>
      cases t with
      | holding =>
          rw [perform, ← readRegisters_readable]
          exact .holding
      | coil => exact .elsewhere fun h => by cases h
      | discreteInput => exact .elsewhere fun h => by cases h
      | input => exact .elsewhere fun h => by cases h
  | writeWord a value =>
      have haccept : Registers.Answers (fun _ => True) d.readable (.writeWord a value) (.ok [])
          (Registers.written d.readable (.writeWord a value)) := .accept rfl hfits
      rwa [Registers.written, ← readable_put a value rfl] at haccept
  | writeWords a words =>
      have hrow := writeRow_readable d d.holding a 0 words
      have haccept : Registers.Answers (fun _ => True) d.readable (.writeWords a words) (.ok [])
          (Registers.written d.readable (.writeWords a words)) := .accept rfl hfits
      rw [Registers.written, hrow] at haccept
      rw [Registers.Fits, hrow] at hfits
      rw [perform]
      dsimp only at hfits ⊢
      rw [hfits]
      exact haccept

/-- **A device on which no read is replaced changes its registers by accepted writes only.** -/
theorem respond_answers (d : Device) (r : Request) (hplain : ∀ a, d.overrides a = none)
    (hfits : Registers.Fits d.readable r) :
    Registers.Answers (fun _ => True) d.readable r (d.respond r).1 (d.respond r).2.readable := by
  obtain ⟨hholding, hfill, hoverrides⟩ := useRule_banks { d with received := r :: d.received } r
  have hreadable : (useRule { d with received := r :: d.received } r).2.readable = d.readable := by
    unfold readable
    rw [hholding, hfill]
  unfold respond
  dsimp only
  split
  · rw [hreadable]
    exact .fail trivial
  · rw [override_plain (by rw [perform_overrides, hoverrides]; exact hplain), ← hreadable]
    exact perform_answers _ r (by rwa [hreadable])

end Device

end ChargeController
