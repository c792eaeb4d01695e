import ChargeController.Proofs.Register.Payload
import Mathlib.Logic.Basic

/-!
# Decoders and places

A block of registers is decoded as a whole, or it is cut into slices that are decoded one by one;
and a word with a sign is decoded in two ways, one for live readings and one for settings.  All of
these go by the words at their places, so they can stand for each other, and data that is too short
for one of them is too short for its twin.

* `DecodesRow` — a decoder of rows that does to each register what a decoder of one register does.
* **`decodesRow_words`** — every decoder that goes by words has it.
* **`decoders_go_by_words`** — slices, rows, pairs, and words and bytes there and back.
* `exactTemperature?_eq` — where the steps of a temperature stay within 32 bits.
* **`signed_decoders_agree`** — the two ways to decode a word with a sign.
-/

namespace ChargeController

namespace Register

/-! ## Slices -/

lemma slice_eq_error_iff {data : Bytes} {i c : Nat} :
    slice data i c = .error (.tooShort "register slice" (2 * (i + c)) data.length) ↔
      data.length < 2 * (i + c) := by
  rw [slice_eq, ← Nat.add_mul, Nat.mul_comm (i + c)]
  exact Ne.ite_eq_left_iff nofun

lemma slice_eq_ok_iff {data bytes : Bytes} {i c : Nat} :
    slice data i c = .ok bytes ↔
      2 * (i + c) ≤ data.length ∧ bytes = data.extract (2 * i) (2 * (i + c)) := by
  have hextract : data.extract (2 * i) (2 * (i + c)) = (data.drop (i * 2)).take (c * 2) := by
    rw [List.extract_eq_take_drop, Nat.mul_add, Nat.add_sub_cancel_left, Nat.mul_comm i,
      Nat.mul_comm c]
  rw [slice_eq, hextract, ← Nat.add_mul, Nat.mul_comm (i + c)]
  split
  · next h => exact iff_of_false (fun h => by cases h) fun ⟨h', _⟩ => absurd h (Nat.not_lt.mpr h')
  · next h =>
    rw [Except.ok.injEq]
    exact ⟨fun heq => ⟨Nat.not_lt.mp h, heq.symm⟩, fun ⟨_, heq⟩ => heq.symm⟩

/-! ## Rows -/

/-- A decoder of rows does to the registers of a row what a decoder of one register does to each of
their slices.  It refuses a row only if bytes are missing, and does not look past its end. -/
structure DecodesRow {α : Type} (what : String) (one : Bytes → Except RegisterFault α)
    (row : Nat → Bytes → Except RegisterFault (List α)) : Prop where
  short : ∀ n data, row n data = .error (.tooShort what (2 * n) data.length) ↔ data.length < 2 * n
  long : ∀ n data, 2 * n ≤ data.length → ∃ values, row n data = .ok values ∧ values.length = n ∧
    ∀ (k : Nat) (hk : k < values.length), (slice data k 1 >>= one) = .ok values[k]
  beyond : ∀ n data rest, 2 * n ≤ data.length → row n (data.take (2 * n) ++ rest) = row n data

/-- **What goes by words decodes a row** register by register. -/
theorem decodesRow_words {α : Type} (what what' : String) (value : UInt16 → α) :
    DecodesRow what (fun data => value <$> readWord what' data)
      (fun n data => List.map value <$> readWords what n data) where
  short n data := by
    rw [readWords_eq, Nat.mul_comm n, apply_ite (List.map value <$> ·)]
    exact Ne.ite_eq_left_iff nofun
  long n data hlong := by
    have hwords := (readWords_eq what n data).trans (if_neg (by omega))
    refine ⟨(List.range n).map fun k => value (wordAt data k), ?_, ?_, fun k hk => ?_⟩
    · rw [hwords]
      exact congrArg Except.ok List.map_map
    · rw [List.length_map, List.length_range]
    · rw [List.length_map, List.length_range] at hk
      rw [← map_bind, readWord_slice, if_neg (by omega), List.getElem_map, List.getElem_range]
      rfl
  beyond n data rest hlong := by
    have htake : (data.take (2 * n)).length = 2 * n := List.length_take_of_le hlong
    have hwords : (List.range n).map (wordAt (data.take (2 * n) ++ rest)) =
        (List.range n).map (wordAt data) := by
      refine List.map_congr_left fun k hk => ?_
      have hlt := List.mem_range.mp hk
      rw [← wordAt_take hlt, List.take_left' htake, wordAt_take hlt]
    have hlong' : ¬ (data.take (2 * n) ++ rest).length < n * 2 := by
      rw [List.length_append, htake]
      omega
    rw [readWords_eq, if_neg hlong', hwords, readWords_eq, if_neg (by omega)]

/-! ## Pairs -/

lemma readScaledPair_eq_error_iff {data : Bytes} :
    readScaledPair data = .error (.tooShort "swapped float32" 4 data.length) ↔
      data.length < 4 := by
  rw [readScaledPair_eq]
  exact Ne.ite_eq_left_iff nofun

/-- **Decoders go by the words at their places.**

* A slice is the bytes from its first register up to the one after its last, and it is refused
  exactly if the data ends before.
* Numbers, quantities and quantities with a sign are each decoded in rows as they are one by one.
* A pair of registers is decoded by the number that its two words make, low word first.
* Words are got back from their bytes, and bytes from their words unless one of them is left over,
  which is refused. -/
theorem decoders_go_by_words :
    (∀ (data : Bytes) (i c : Nat),
      (slice data i c = .error (.tooShort "register slice" (2 * (i + c)) data.length) ↔
        data.length < 2 * (i + c)) ∧
      ∀ bytes, slice data i c = .ok bytes ↔
        2 * (i + c) ≤ data.length ∧ bytes = data.extract (2 * i) (2 * (i + c))) ∧
    DecodesRow "ints" readCount readCountRow ∧
    DecodesRow "scaled floats" readScaled readScaledRow ∧
    DecodesRow "signed scaled values" readSignedScaled readSignedScaledRow ∧
    (∀ data : Bytes,
      (readScaledPair data = .error (.tooShort "swapped float32" 4 data.length) ↔
        data.length < 4) ∧
      (4 ≤ data.length → readScaledPair data = .ok
        (Binary.ofNat ((wordAt data 0).toNat + 65536 * (wordAt data 1).toNat) / hundred))) ∧
    (∀ words : List UInt16, wordsOfBytes (bytesOfWords words) = .ok words) ∧
    ∀ data : Bytes,
      (data.length % 2 = 0 →
        ∃ words, wordsOfBytes data = .ok words ∧ bytesOfWords words = data) ∧
      (data.length % 2 = 1 → wordsOfBytes data = .error (.oddLength data.length)) := by
  refine ⟨fun data i c => ⟨slice_eq_error_iff, fun bytes => slice_eq_ok_iff⟩,
    decodesRow_words _ _ _, decodesRow_words _ _ _, decodesRow_words _ _ _,
    fun data => ⟨readScaledPair_eq_error_iff, fun hlong => ?_⟩, wordsOfBytes_bytesOfWords,
    fun data => ⟨fun heven => ?_, wordsOfBytes_of_odd⟩⟩
  · exact (readScaledPair_eq data).trans (if_neg (Nat.not_lt.mpr hlong))
  · exact ⟨_, wordsOfBytes_of_even heven, bytesOfWords_leadingWords heven⟩

/-- Two registers and a byte that is left over. -/
theorem five_bytes_decoded :
    let data : Bytes := [0x05, 0xA0, 0x04, 0xE2, 0x07]
    2 * (1 + 1) ≤ data.length ∧ slice data 1 1 = .ok [0x04, 0xE2] ∧
      data.length < 2 * 3 ∧ readCountRow 3 data = .error (.tooShort "ints" 6 5) ∧
      readScaledRow 2 (data.take 4 ++ [1, 2, 3]) = readScaledRow 2 data ∧
      4 ≤ data.length ∧
      readScaledPair data = .ok (Binary.ofNat 81921440 / hundred) ∧
      data.length % 2 = 1 ∧ wordsOfBytes data = .error (.oddLength 5) ∧
      (data.take 4).length % 2 = 0 ∧
      ∃ words, wordsOfBytes (data.take 4) = .ok words ∧ bytesOfWords words = data.take 4 := by
  intro data
  obtain ⟨hslice, hcounts, hquantities, -, hpair, -, hbytes⟩ := decoders_go_by_words
  have hshort : data.length < 2 * 3 := by decide
  have hlong : 4 ≤ data.length := by decide
  have hnumber : (wordAt data 0).toNat + 65536 * (wordAt data 1).toNat = 81921440 := by decide
  have hpower := (hpair data).2 hlong
  rw [hnumber] at hpower
  exact ⟨by decide, ((hslice data 1 1).2 _).mpr ⟨by decide, rfl⟩,
    hshort, (hcounts.short 3 data).mpr hshort, hquantities.beyond 2 data [1, 2, 3] (by decide),
    hlong, hpower, by decide, (hbytes data).2 (by decide), by decide,
    (hbytes (data.take 4)).1 (by decide)⟩

/-! ## Words with a sign -/

/-- A number with a sign in 32 bits, unless it is too small or too large for them. -/
def int32? (n : Int) : Option Int32 :=
  if -2147483648 ≤ n ∧ n < 2147483648 then some (Int32.ofInt n) else none

/-- The temperature of a reading by steps on whole numbers, of which none may leave the 32 bits. -/
def exactTemperature? (raw : UInt32) : Option Single := do
  let start ← int32? raw.toNat
  let value ← if raw < 32768 then some start else int32? (start.toInt - 65536)
  return Binary.ofInt value.toInt / hundred

lemma int32?_toInt (n : Int32) : int32? n.toInt = some n := by
  rw [int32?, if_pos ⟨n.le_toInt, n.toInt_lt⟩, Int32.ofInt_toInt]

/-- **The steps of a temperature stay within 32 bits** for all readings up to one half of them. -/
theorem exactTemperature?_eq (raw : UInt32) :
    exactTemperature? raw =
      if raw.toNat < 2147483648 then some (temperature raw) else none := by
  by_cases hraw : raw.toNat < 2147483648
  · have hstart : int32? raw.toNat = some raw.toInt32 := by rw [← toInt_toInt32 hraw, int32?_toInt]
    have hdifference : int32? (raw.toInt32.toInt - 65536) = some (raw.toInt32 - 65536) := by
      rw [toInt_toInt32 hraw, ← toInt_toInt32_sub hraw, int32?_toInt]
    rw [if_pos hraw, exactTemperature?, hstart, temperature]
    by_cases hlow : raw < 32768
    · simp only [hlow, if_true]
      rfl
    · simp only [hlow, if_false, Option.bind_eq_bind, Option.bind_some, hdifference]
      rfl
  · rw [if_neg hraw, exactTemperature?, int32?, if_neg (by omega)]
    rfl

/-- **The two decoders of words with a sign agree.**  The decoder of the two live temperatures turns
large readings around by a difference; it has the values of the decoder that takes two registers as
two's-complement numbers, and refuses the same data.  No reading of one register makes any of its
steps leave the 32 bits. -/
theorem signed_decoders_agree :
    (∀ data : Bytes,
      (readTemperatures data).toOption.map (fun t => [t.1, t.2]) =
        (readSignedScaledRow 2 data).toOption) ∧
      ∀ raw : UInt32, raw < 65536 → exactTemperature? raw = some (temperature raw) := by
  refine ⟨fun data => ?_, fun raw hraw => ?_⟩
  · rw [readTemperatures_eq, readSignedScaledRow_eq]
    split
    · rfl
    · rfl
  · have hlt : raw.toNat < 65536 := UInt32.lt_iff_toNat_lt.mp hraw
    rw [exactTemperature?_eq, if_pos (Nat.lt_trans hlt (by decide))]

/-- One hundredth below zero at the battery, the coldest reading of all at the device. -/
theorem coldest_readings_agree :
    let data : Bytes := [0xFF, 0xFF, 0x80, 0x00]
    (readSignedScaledRow 2 data).toOption = some [temperature 65535, temperature 32768] ∧
      (32768 : UInt32) < 65536 ∧ exactTemperature? 32768 = some (temperature 32768) := by
  intro data
  obtain ⟨hrows, hsteps⟩ := signed_decoders_agree
  have hread : (readTemperatures data).toOption = some (temperature 65535, temperature 32768) := rfl
  have hrow := hrows data
  rw [hread] at hrow
  exact ⟨hrow.symm, by decide, hsteps 32768 (by decide)⟩

end Register

end ChargeController
