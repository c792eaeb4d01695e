import ChargeController.Proofs.Bus.Masking

/-!
# What a refused request leaves

A device refuses a request because its script says so, because a register has no word, or because a
row runs past the last address.  The script speaks before anything is done, and a read does nothing
at all.  A row that is to be written is another matter: that is done word by word, and a row that
runs past the last address is refused only there, when every register up to the last one has its new
word.

* `Request.wordFor` — the word that a request has for a holding register.
* `Device.respond_cases` — the script refuses a request, or the device carries it out.
* **`Device.comply_device`** — a device after a request that was carried out, refused or not.
* **`Device.refusal_leaves`** — what refused requests leave in the banks of a device.
* `Device.torn_row_refused` — a refused row of which one half was written.
-/

namespace ChargeController

namespace Request

/-- The word that a request has for a holding register, if it has one. -/
def wordFor : Request → UInt16 → Option UInt16
  | read _ _ _, _ => none
  | writeWord a value, x => if x = a then some value else none
  | writeWords a words, x => if a.toNat ≤ x.toNat then words[x.toNat - a.toNat]? else none

/-- A row of words that runs past the last address. -/
def Overruns : Request → Prop
  | writeWords a words => UInt16.size < a.toNat + words.length
  | _ => False

instance : DecidablePred Overruns
  | read _ _ _ => .isFalse id
  | writeWord _ _ => .isFalse id
  | writeWords a words => inferInstanceAs (Decidable (UInt16.size < a.toNat + words.length))

end Request

namespace Device

variable (d : Device)

/-! ## Refused by the script -/

/-- The script of a device is all that a rule changes. -/
lemma useRule_unruled (r : Request) : (d.useRule r).2.unruled = d.unruled := by
  rw [useRule_device]
  rfl

/-- **The script refuses a request, or the device carries it out**; up to its script, the device is
the same by then. -/
theorem respond_cases (r : Request) :
    ∃ d' : Device, d'.unruled = d.unruled ∧
      (d.respond r = (.error (.device (.scripted r)), d') ∨ d.respond r = d'.comply r) := by
  let noted := { d with received := r :: d.received }
  refine ⟨(noted.useRule r).2, useRule_unruled noted r, ?_⟩
  cases hfails : (noted.useRule r).1 with
  | true =>
      refine .inl ?_
      simp only [respond]
      exact if_pos hfails
  | false =>
      refine .inr ?_
      simp only [respond]
      exact if_neg (hfails ▸ Bool.false_ne_true)

/-! ## Carried out -/

/-- **A request that is carried out** gives the holding registers the words that it has for them,
also if it is refused in the end, and changes nothing else. -/
theorem comply_device (r : Request) :
    (d.comply r).2 = { d with holding := fun x => (r.wordFor x).or (d.holding x) } := by
  cases r with
  | read t a q => cases t <;> rfl
  | writeWord a value =>
      show { d with holding := put d.holding a (some value) } = _
      congr 1
      funext x
      simp only [put, Request.wordFor]
      split
      · rfl
      · rfl
  | writeWords a words =>
      show { d with holding := (writeRow d.holding a 0 words).1 } = _
      congr 1
      funext x
      rw [writeRow_word, Nat.add_zero, Request.wordFor]
      split
      · rfl
      · rfl

lemma comply_row (a : UInt16) (words : List UInt16) :
    (d.comply (.writeWords a words)).1 =
      if a.toNat + words.length ≤ UInt16.size then .ok []
      else .error (.invalid .addressOverflow) := by
  have hstart : a.toNat + 0 ≤ UInt16.size := Nat.le_of_lt a.toNat_lt
  simp only [comply, perform, writeRow_outcome d.holding words hstart, Nat.add_zero]
  split
  · rfl
  · rfl

/-- What a device refuses although it fits, and although it carries it out, is a read. -/
lemma isWrite_of_refused {d : Device} {r : Request} {fault : BusFault}
    (hrefused : (d.comply r).1 = .error fault) (hfits : ¬ r.Overruns) : r.isWrite = false := by
  cases r with
  | read t a q => rfl
  | writeWord a value => cases hrefused
  | writeWords a words =>
      rw [comply_row, if_pos (Nat.not_lt.mp hfits)] at hrefused
      cases hrefused

lemma holding_of_read {r : Request} (hread : r.isWrite = false) :
    (d.comply r).2.holding = d.holding := by
  cases r with
  | read t a q => rw [comply_device]; rfl
  | writeWord a value => cases hread
  | writeWords a words => cases hread

lemma comply_overrun {r : Request} (hover : r.Overruns) :
    (d.comply r).1 = .error (.invalid .addressOverflow) := by
  cases r with
  | read t a q => exact hover.elim
  | writeWord a value => exact hover.elim
  | writeWords a words => exact (comply_row d a words).trans (if_neg (Nat.not_le.mpr hover))

/-! ## What is left -/

/-- **What refused requests leave.**  Whatever a device holds and was told to do:

* no request changes its input registers or its switches;
* a refused one leaves its holding registers as they are, if it is not a row that runs past the last
  address, or if the script has refused it;
* a row that runs past the last address is refused, and unless it is the script that refuses it,
  every register from the first one of the row up to the last address has its new word by then. -/
theorem refusal_leaves (r : Request) :
    let answer := (d.respond r).1
    let after := (d.respond r).2
    (after.input = d.input ∧ after.coils = d.coils ∧ after.discrete = d.discrete) ∧
      (∀ fault, answer = .error fault → ¬ r.Overruns → after.holding = d.holding) ∧
      (answer = .error (.device (.scripted r)) → after.holding = d.holding) ∧
      (r.Overruns →
        answer = .error (.device (.scripted r)) ∨
          answer = .error (.invalid .addressOverflow) ∧
            ∀ x, after.holding x = (r.wordFor x).or (d.holding x)) := by
  intro answer after
  obtain ⟨d', hsame, hresponse⟩ := respond_cases d r
  obtain ⟨hinput, hholding, hcoils, hdiscrete⟩ := banks_of_unruled hsame
  obtain hscripted | hcomplied := hresponse
  · have hanswer : answer = .error (.device (.scripted r)) := congrArg Prod.fst hscripted
    have hafter : after = d' := congrArg Prod.snd hscripted
    -- Up to its script the device is as it was, so all banks are.
    rw [hafter]
    exact ⟨⟨hinput, hcoils, hdiscrete⟩, fun _ _ _ => hholding, fun _ => hholding,
      fun _ => .inl hanswer⟩
  · have hanswer : answer = (d'.comply r).1 := congrArg Prod.fst hcomplied
    have hafter : after = (d'.comply r).2 := congrArg Prod.snd hcomplied
    have hkept : ∀ fault, answer = .error fault → ¬ r.Overruns → after.holding = d.holding := by
      intro fault hfault hfits
      -- Of what fits, only reads are refused.
      have hread := isWrite_of_refused (hanswer.symm.trans hfault) hfits
      rw [hafter, holding_of_read d' hread, hholding]
    refine ⟨?_, hkept, fun hscripted => ?_, fun hover => .inr ⟨?_, fun x => ?_⟩⟩
    · rw [hafter, comply_device]
      exact ⟨hinput, hcoils, hdiscrete⟩
    · refine hkept _ hscripted fun hover => ?_
      rw [hanswer, comply_overrun d' hover] at hscripted
      cases hscripted
    · rw [hanswer, comply_overrun d' hover]
    · rw [hafter, comply_device, ← hholding]

/-- A device whose script refuses writes at `0x9000` and which has words at `0xFFFC` and behind
it. -/
def guardedDevice : Device :=
  (Device.empty.setHolding ⟨0xFFFC, [6, 8], by decide⟩).failWrites 0x9000

/-- The script refuses a row, a read runs past the last address, and so does another row. -/
theorem three_refusals :
    let row := Request.writeWords 0x9000 [1, 2]
    let read := Request.read .holding 0xFFFE 3
    let overrun := Request.writeWords 0xFFFE [1, 2, 3]
    (guardedDevice.respond row).1 = .error (.device (.scripted row)) ∧
      (guardedDevice.respond row).2.holding = guardedDevice.holding ∧
      (guardedDevice.respond read).1 = .error (.device (.illegalAddress 0xFFFE)) ∧
      ¬ read.Overruns ∧
      (guardedDevice.respond read).2.holding = guardedDevice.holding ∧
      overrun.Overruns ∧
      (guardedDevice.respond overrun).1 = .error (.invalid .addressOverflow) ∧
      (guardedDevice.respond overrun).2.holding 0xFFFD = some 8 ∧
      (guardedDevice.respond overrun).2.holding 0xFFFF = some 2 := by
  intro row read overrun
  have hrow : (guardedDevice.respond row).1 = .error (.device (.scripted row)) := rfl
  have hread : (guardedDevice.respond read).1 = .error (.device (.illegalAddress 0xFFFE)) := rfl
  have hfits : ¬ read.Overruns := id
  have hover : overrun.Overruns := by decide
  have hrefused : (guardedDevice.respond overrun).1 ≠ .error (.device (.scripted overrun)) := by
    decide
  obtain ⟨-, -, hkept, -⟩ := refusal_leaves guardedDevice row
  obtain ⟨-, hkept', -, -⟩ := refusal_leaves guardedDevice read
  obtain ⟨-, -, -, htorn⟩ := refusal_leaves guardedDevice overrun
  obtain ⟨hanswer, hwords⟩ := (htorn hover).resolve_left hrefused
  exact ⟨hrow, hkept hrow, hread, hfits, hkept' _ hread hfits, hover, hanswer,
    (hwords 0xFFFD).trans (by decide), (hwords 0xFFFF).trans (by decide)⟩

/-- Two words for the last register and the one after it, on a device that holds nothing: the row
is refused, and the last register has its new word all the same. -/
theorem torn_row_refused :
    let row := Request.writeWords 0xFFFF [1, 2]
    (empty.respond row).1 = .error (.invalid .addressOverflow) ∧
      empty.holding 0xFFFF = none ∧ (empty.respond row).2.holding 0xFFFF = some 1 := by
  decide

end Device

end ChargeController
