import ChargeController.Proofs.Bus.Masking
import ChargeController.Proofs.Register.Payload

/-!
# Blocks that are written and read back

A block write names a first register and a number of registers, and has their bytes.  Bytes that are
not two for each register are refused before anything is sent; all others go out in one request, as
words.  A device without a script that has a place for each of them then holds the words at their
places, and nothing else in it has changed, so a read of the same block answers with the same bytes.

* `Request.ofBlock_eq` — the request of a block, by the number of its bytes.
* **`Device.writeRow_of_fits`** — the words of a row at their places.
* `Device.respond_writeWords` — a device after a row was written.
* **`block_reads_back`** — a block write, the reads that follow it, and all that it leaves alone.
-/

namespace ChargeController

/-! ## The request of a block -/

lemma Request.ofBlock_eq (a n : UInt16) (data : Bytes) :
    ofBlock a n data =
      if data.length % 2 = 1 then .error (.invalid (.payload (.oddLength data.length)))
      else if data.length = 2 * n.toNat then .ok (.writeWords a (Register.leadingWords data))
      else .error (.invalid (.quantityMismatch n (data.length / 2))) := by
  by_cases hodd : data.length % 2 = 1
  · rw [ofBlock, Register.wordsOfBytes_of_odd hodd, if_pos hodd]
  · rw [ofBlock, Register.wordsOfBytes_of_even (by omega), if_neg hodd]
    dsimp only
    rw [Register.length_leadingWords]
    exact if_congr (by omega) rfl rfl

namespace Device

/-! ## Rows that fit -/

/-- **A row that does not run past the last address** is written, each word at its place. -/
theorem writeRow_of_fits {a : UInt16} (words : List UInt16) (offset : Nat)
    (hfits : a.toNat + (offset + words.length) ≤ UInt16.size) (b : Bank) :
    (writeRow b a offset words).2 = .ok () ∧
      ∀ i < words.length,
        (writeRow b a offset words).1 (a + UInt16.ofNat (offset + i)) = words[i]? := by
  refine ⟨(writeRow_outcome b words (by omega)).trans (if_pos (by omega)), fun i hi => ?_⟩
  have hplace : (a + UInt16.ofNat (offset + i)).toNat = a.toNat + (offset + i) :=
    offsetAddress?_eq_some.mp (offsetAddress?_eq (by omega))
  rw [writeRow_word, hplace, if_pos (by omega),
    show a.toNat + (offset + i) - (a.toNat + offset) = i by omega,
    List.getElem?_eq_getElem hi, Option.some_or]

/-- A row is read as the words that are at its places. -/
lemma readRegisters_eq {b : Bank} {fill : Option UInt16} {a q : UInt16} {word : Nat → UInt16}
    (hfits : a.toNat + q.toNat ≤ UInt16.size)
    (hword : ∀ i < q.toNat, b (a + UInt16.ofNat i) = some (word i)) :
    readRegisters b fill a q = .ok ((List.range q.toNat).map word) := by
  apply mapM_eq_map
  intro i hi
  have hlt := List.mem_range.mp hi
  exact readRegister_eq (by omega) (hword i hlt)

/-- A device without a script after a row was written: only holding registers have changed. -/
lemma respond_writeWords {d : Device} (hplain : d.Plain) (a : UInt16) (words : List UInt16) :
    d.respond (.writeWords a words) =
      ((fun _ => []) <$> (writeRow d.holding a 0 words).2,
        { d with
          received := .writeWords a words :: d.received
          holding := (writeRow d.holding a 0 words).1 }) :=
  respond_of_plain hplain _

/-- A device without a script answers a read with the words at its places. -/
lemma respond_holding {d : Device} (hplain : d.Plain) {a q : UInt16} (word : Nat → UInt16)
    (hfits : a.toNat + q.toNat ≤ UInt16.size)
    (hword : ∀ i < q.toNat, d.holding (a + UInt16.ofNat i) = some (word i)) :
    (d.respond (.read .holding a q)).1 =
      .ok (Register.bytesOfWords ((List.range q.toNat).map word)) := by
  rw [respond_of_plain hplain, perform, readRegisters_eq hfits hword]
  rfl

/-- A single register is answered with the two bytes of its word. -/
lemma respond_word {d : Device} (hplain : d.Plain) {a word : UInt16}
    (hword : d.holding a = some word) :
    (d.respond (.read .holding a 1)).1 = .ok (Register.wordBytes word) := by
  refine respond_holding hplain (fun _ => word) a.toNat_lt fun i hi => ?_
  obtain rfl : i = 0 := Nat.lt_one_iff.mp hi
  show d.holding (a + 0) = some word
  rw [UInt16.add_zero, hword]

/-- A row that holds the words of some bytes is answered with these bytes. -/
lemma respond_block {d : Device} (hplain : d.Plain) {a n : UInt16} {data : Bytes}
    (hlength : data.length = 2 * n.toNat) (hfits : a.toNat + n.toNat ≤ UInt16.size)
    (hword : ∀ i < n.toNat, d.holding (a + UInt16.ofNat i) = some (Register.wordAt data i)) :
    (d.respond (.read .holding a n)).1 = .ok data := by
  have hcount : n.toNat = data.length / 2 := by omega
  rw [respond_holding hplain _ hfits hword, hcount, ← Register.leadingWords_eq_map,
    Register.bytesOfWords_leadingWords (by omega)]

/-- The bytes of a block, once they are written: each word is at its place, and no register beside
the block has changed. -/
lemma writeRow_leadingWords {a n : UInt16} {data : Bytes} (hlength : data.length = 2 * n.toNat)
    (hfits : a.toNat + n.toNat ≤ UInt16.size) (b : Bank) :
    let row := writeRow b a 0 (Register.leadingWords data)
    row.2 = .ok () ∧
      (∀ i < n.toNat, row.1 (a + UInt16.ofNat i) = some (Register.wordAt data i)) ∧
      ∀ x : UInt16, x.toNat < a.toNat ∨ a.toNat + n.toNat ≤ x.toNat → row.1 x = b x := by
  intro row
  have hwords : (Register.leadingWords data).length = n.toNat := by
    rw [Register.length_leadingWords]
    omega
  obtain ⟨hok, hplaces⟩ :=
    writeRow_of_fits (a := a) (Register.leadingWords data) 0 (by omega) b
  refine ⟨hok, fun i hi => ?_, fun x hx => ?_⟩
  · have hplace := hplaces i (by omega)
    rw [Nat.zero_add] at hplace
    rw [hplace, Register.leadingWords_eq_map, List.getElem?_map, List.getElem?_range (by omega)]
    rfl
  · apply writeRow_of_not_reached
    intro i hi hreached
    rw [offsetAddress?_eq_some] at hreached
    omega

end Device

namespace Session

open Dialogue

/-! ## Requests straight to a device -/

section

variable (self queue : Nat) (d : Device) (b : Bench)

lemma play_direct (r : Request) :
    (play (alone .scripted self queue) (d, b) (transport none r)).2 =
      ((d.respond r).1, (d.respond r).2, b.later d.delay) :=
  rfl

/-- A block write is refused at once, or it is one request. -/
lemma play_writeBlock (a n : UInt16) (data : Bytes) :
    (play (alone .scripted self queue) (d, b) (Command.writeBlockTalk none a n data)).2 =
      match Request.ofBlock a n data with
      | .ok r => ((d.respond r).1, (d.respond r).2, b.later d.delay)
      | .error fault => (.error fault, d, b) := by
  rw [Command.writeBlockTalk]
  cases Request.ofBlock a n data with
  | ok r => exact play_direct self queue d b r
  | error fault => rfl

end

/-- **A block that is written is read back.**  On a device without a script, whatever it holds:

* bytes that are not two for each register are refused, and nothing is sent;
* all others are one request; and if the block does not run past the last address, the request is
  accepted, a read of the block answers with its bytes, a read of any register in it with the
  register's own two, and no register outside the block and no other bank has changed. -/
theorem block_reads_back {d : Device} (hplain : d.Plain) (a n : UInt16) (data : Bytes)
    (self queue : Nat) (b : Bench) :
    let written := (play (alone .scripted self queue) (d, b)
      (Command.writeBlockTalk none a n data)).2
    let answerTo := fun r : Request =>
      (play (alone .scripted self queue) written.2 (transport none r)).2.1
    let after := written.2.1
    (data.length % 2 = 1 →
      written = (.error (.invalid (.payload (.oddLength data.length))), d, b)) ∧
    (data.length % 2 = 0 → data.length ≠ 2 * n.toNat →
      written = (.error (.invalid (.quantityMismatch n (data.length / 2))), d, b)) ∧
    (data.length = 2 * n.toNat →
      after.received = .writeWords a (Register.leadingWords data) :: d.received ∧
      (a.toNat + n.toNat ≤ 65536 →
        written.1 = .ok [] ∧
        answerTo (.read .holding a n) = .ok data ∧
        (∀ i < n.toNat, answerTo (.read .holding (a + UInt16.ofNat i) 1) =
          .ok (Register.wordBytes (Register.wordAt data i))) ∧
        (∀ x : UInt16, x.toNat < a.toNat ∨ a.toNat + n.toNat ≤ x.toNat →
          after.holding x = d.holding x) ∧
        after.input = d.input ∧ after.coils = d.coils ∧ after.discrete = d.discrete)) := by
  intro written answerTo after
  have hwritten : written = _ := play_writeBlock self queue d b a n data
  rw [Request.ofBlock_eq] at hwritten
  refine ⟨fun hodd => ?_, fun heven hlength => ?_, fun hlength => ?_⟩
  · rw [if_pos hodd] at hwritten
    exact hwritten
  · rw [if_neg (by omega), if_neg hlength] at hwritten
    exact hwritten
  · rw [if_neg (by omega), if_pos hlength] at hwritten
    dsimp only at hwritten
    rw [Device.respond_writeWords hplain] at hwritten
    have hafter : after = _ := congrArg (·.2.1) hwritten
    refine ⟨by rw [hafter], fun hfits => ?_⟩
    obtain ⟨hok, hwords, hbeside⟩ := Device.writeRow_leadingWords hlength hfits d.holding
    have hplain' : after.Plain := by
      rw [hafter]
      exact ⟨hplain.failures, hplain.overrides⟩
    have hheld : ∀ i < n.toNat,
        after.holding (a + UInt16.ofNat i) = some (Register.wordAt data i) := by
      rw [hafter]
      exact hwords
    refine ⟨?_, Device.respond_block hplain' hlength hfits hheld,
      fun i hi => Device.respond_word hplain' (hheld i hi), ?_, ?_, ?_, ?_⟩
    · rw [hwritten, hok]
      rfl
    · rw [hafter]
      exact hbeside
    · rw [hafter]
    · rw [hafter]
    · rw [hafter]

/-- A device with a register on either side of a block and something in every other bank. -/
def crowdedDevice : Device :=
  { (({ Device.empty with delay := 20 }.setHolding ⟨0xFFFC, [7, 8], by decide⟩).setInput
      ⟨0xFFFD, [1300], by decide⟩) with
    coils := fun a => a = 0xFFFE
    discrete := fun a => a = 0xFFFF }

/-- The last two registers are written together and read back, one of them for the first time. -/
theorem last_registers_read_back :
    let written := (play (alone .scripted 0 0) (crowdedDevice, quietBench)
      (Command.writeBlockTalk none 0xFFFE 2 [0x05, 0xDC, 0x05, 0xA0])).2
    let answerTo := fun r : Request =>
      (play (alone .scripted 0 0) written.2 (transport none r)).2.1
    crowdedDevice.Plain ∧ (0xFFFE : UInt16).toNat + (2 : UInt16).toNat ≤ 65536 ∧
      written.1 = .ok [] ∧ written.2.1.received = [.writeWords 0xFFFE [1500, 1440]] ∧
      answerTo (.read .holding 0xFFFE 2) = .ok [0x05, 0xDC, 0x05, 0xA0] ∧
      answerTo (.read .holding 0xFFFF 1) = .ok [0x05, 0xA0] ∧
      written.2.1.holding 0xFFFD = some 8 ∧ written.2.1.coils = crowdedDevice.coils := by
  intro written answerTo
  have hplain : crowdedDevice.Plain := ⟨fun _ => rfl, fun _ => rfl⟩
  have hfits : (0xFFFE : UInt16).toNat + (2 : UInt16).toNat ≤ 65536 := by decide
  obtain ⟨-, -, hfull⟩ := block_reads_back hplain 0xFFFE 2 [0x05, 0xDC, 0x05, 0xA0] 0 0 quietBench
  obtain ⟨hsent, hread⟩ := hfull rfl
  obtain ⟨hok, hblock, hwords, hbeside, -, hcoils, -⟩ := hread hfits
  exact ⟨hplain, hfits, hok, hsent, hblock, hwords 1 (by decide),
    (hbeside 0xFFFD (by decide)).trans (by decide), hcoils⟩

end Session

end ChargeController
