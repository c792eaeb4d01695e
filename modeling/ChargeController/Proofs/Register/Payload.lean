import ChargeController.Register.Value
import Mathlib.Tactic.Lemma

/-!
# Words in a payload

What is read from a register is made of the words that stand at its place in a payload, and a
payload that lacks one of their bytes is refused with the number that it should have had.

* `Register.wordAt` — the word at a place of a payload.
* `Register.bytesOfWords_leadingWords` — bytes read back from their words.
* `Register.readWords_eq` and the like — each decoder by the words that it needs.
-/

namespace ChargeController

/-! ## Words at places -/

namespace Register

/-- The word at a place of some bytes, counted in registers. -/
def wordAt (data : Bytes) (i : Nat) : UInt16 :=
  word (data.getD (2 * i) 0) (data.getD (2 * i + 1) 0)

lemma wordAt_take {data : Bytes} {n i : Nat} (h : i < n) :
    wordAt (data.take (2 * n)) i = wordAt data i := by
  have hlt : 2 * i + 1 < 2 * n := by omega
  simp only [wordAt, List.getD_eq_getElem?_getD, List.getElem?_take_of_lt hlt,
    List.getElem?_take_of_lt (Nat.lt_of_succ_lt hlt)]

lemma wordAt_drop {data : Bytes} {n i : Nat} :
    wordAt (data.drop (2 * n)) i = wordAt data (n + i) := by
  simp only [wordAt, List.getD_eq_getElem?_getD, List.getElem?_drop]
  rw [Nat.mul_add, Nat.add_assoc]

lemma wordAt_cons_cons {a b : UInt8} {rest : Bytes} {i : Nat} :
    wordAt (a :: b :: rest) (i + 1) = wordAt rest i := by
  rw [wordAt, wordAt, show 2 * (i + 1) = 2 * i + 1 + 1 by omega]
  rfl

lemma wordAt_bytesOfWords {words : List UInt16} {i : Nat} :
    i < words.length → wordAt (bytesOfWords words) i = words.getD i 0 := by
  induction words generalizing i with
  | nil => exact fun h => absurd h (Nat.not_lt_zero i)
  | cons w rest ih =>
      intro h
      cases i with
      | zero => exact word_wordBytes w
      | succ i => exact wordAt_cons_cons.trans (ih (Nat.lt_of_succ_lt_succ h))

lemma take_leadingWords {data : Bytes} {n : Nat} (h : n * 2 ≤ data.length) :
    (leadingWords data).take n = (List.range n).map (wordAt data) := by
  induction n generalizing data with
  | zero => rfl
  | succ n ih =>
      match data with
      | [] => simp at h
      | [a] =>
          simp only [List.length_singleton] at h
          omega
      | a :: b :: rest =>
          have hrest : n * 2 ≤ rest.length := by
            simp only [List.length_cons] at h
            omega
          rw [leadingWords, List.take_succ_cons, ih hrest, List.range_succ_eq_map, List.map_cons,
            List.map_map]
          refine congrArg (wordAt (a :: b :: rest) 0 :: ·) (List.map_congr_left fun i _ => ?_)
          exact wordAt_cons_cons.symm

/-! ## There and back -/

lemma toNat_word (high low : UInt8) : (word high low).toNat = 256 * high.toNat + low.toNat := by
  have hhigh : high.toNat < 256 := high.toNat_lt
  have hlow : low.toNat < 256 := low.toNat_lt
  simp only [word, UInt16.toNat_add, UInt16.toNat_mul, UInt8.toNat_toUInt16, UInt16.toNat_ofNat,
    Nat.reducePow, Nat.reduceMod]
  omega

lemma wordBytes_word (high low : UInt8) : wordBytes (word high low) = [high, low] := by
  have hhigh : high.toNat < 256 := high.toNat_lt
  have hlow : low.toNat < 256 := low.toNat_lt
  have hfirst : (word high low / 256).toUInt8 = high := by
    apply UInt8.toNat_inj.mp
    simp only [UInt16.toNat_toUInt8, UInt16.toNat_div, UInt16.toNat_ofNat, toNat_word,
      Nat.reducePow, Nat.reduceMod]
    omega
  have hsecond : (word high low).toUInt8 = low := by
    apply UInt8.toNat_inj.mp
    simp only [UInt16.toNat_toUInt8, toNat_word]
    omega
  rw [wordBytes, hfirst, hsecond]

lemma length_leadingWords : ∀ data : Bytes, (leadingWords data).length = data.length / 2
  | [] => rfl
  | [_] => by simp [leadingWords]
  | _ :: _ :: rest => by
      simp only [leadingWords, List.length_cons, length_leadingWords rest]
      omega

/-- Bytes read back from their words, if none of them is left over. -/
theorem bytesOfWords_leadingWords :
    ∀ {data : Bytes}, data.length % 2 = 0 → bytesOfWords (leadingWords data) = data
  | [], _ => rfl
  | [_], h => by cases h
  | high :: low :: rest, h => by
      simp only [List.length_cons] at h
      have hrest : bytesOfWords (leadingWords rest) = rest := bytesOfWords_leadingWords (by omega)
      rw [leadingWords, bytesOfWords, List.flatMap_cons, wordBytes_word, ← bytesOfWords, hrest]
      rfl

/-- The words of some bytes are the words at their places. -/
lemma leadingWords_eq_map (data : Bytes) :
    leadingWords data = (List.range (data.length / 2)).map (wordAt data) := by
  rw [← take_leadingWords (Nat.div_mul_le_self _ _), ← length_leadingWords, List.take_length]

/-! ## The decoders -/

lemma readWords_eq (what : String) (count : Nat) (data : Bytes) :
    readWords what count data =
      if data.length < count * 2 then .error (.tooShort what (count * 2) data.length)
      else .ok ((List.range count).map (wordAt data)) := by
  simp only [readWords, require]
  split
  · rfl
  · next h => exact congrArg Except.ok (take_leadingWords (Nat.not_lt.mp h))

lemma readWord_eq (what : String) (data : Bytes) :
    readWord what data =
      if data.length < 2 then .error (.tooShort what 2 data.length) else .ok (wordAt data 0) := by
  match data with
  | [] => rfl
  | [a] => rfl
  | a :: b :: rest => exact (if_neg (by simp)).symm

lemma readWord_of_long {what : String} {data : Bytes} (h : 2 ≤ data.length) :
    ∃ word, readWord what data = .ok word :=
  ⟨_, (readWord_eq what data).trans (if_neg (Nat.not_lt.mpr h))⟩

lemma readScaled_eq (data : Bytes) :
    readScaled data =
      if data.length < 2 then .error (.tooShort "scaled float" 2 data.length)
      else .ok (scaled (wordAt data 0)) := by
  rw [readScaled, readWord_eq, apply_ite (scaled <$> ·)]
  rfl

lemma readCount_eq (data : Bytes) :
    readCount data =
      if data.length < 2 then .error (.tooShort "int" 2 data.length)
      else .ok (wordAt data 0).toUInt32 := by
  rw [readCount, readWord_eq, apply_ite (UInt16.toUInt32 <$> ·)]
  rfl

lemma readScaledRow_eq (count : Nat) (data : Bytes) :
    readScaledRow count data =
      if data.length < count * 2 then .error (.tooShort "scaled floats" (count * 2) data.length)
      else .ok ((List.range count).map fun i => scaled (wordAt data i)) := by
  rw [readScaledRow, readWords_eq, apply_ite (List.map scaled <$> ·)]
  exact congrArg (ite _ _) (congrArg Except.ok List.map_map)

lemma readSignedScaledRow_eq (count : Nat) (data : Bytes) :
    readSignedScaledRow count data =
      if data.length < count * 2 then
        .error (.tooShort "signed scaled values" (count * 2) data.length)
      else .ok ((List.range count).map fun i => signedScaled (wordAt data i)) := by
  rw [readSignedScaledRow, readWords_eq, apply_ite (List.map signedScaled <$> ·)]
  exact congrArg (ite _ _) (congrArg Except.ok List.map_map)

lemma readScaledPair_eq (data : Bytes) :
    readScaledPair data =
      if data.length < 4 then .error (.tooShort "swapped float32" 4 data.length)
      else .ok (scaledPair (wordAt data 0) (wordAt data 1)) := by
  match data with
  | [] => rfl
  | [a] => rfl
  | [a, b] => rfl
  | [a, b, c] => rfl
  | a :: b :: c :: d :: rest => exact (if_neg (by simp)).symm

lemma toInt_toInt32 {raw : UInt32} (h : raw.toNat < 2147483648) :
    raw.toInt32.toInt = raw.toNat := by
  rw [Int32.toInt, UInt32.toBitVec_toInt32, BitVec.toInt_eq_toNat_bmod]
  exact Int.bmod_eq_of_le (by omega) (by change (raw.toNat : Int) < _; omega)

lemma toInt_toInt32_sub {raw : UInt32} (h : raw.toNat < 2147483648) :
    (raw.toInt32 - 65536).toInt = raw.toNat - 65536 := by
  rw [Int32.toInt_sub, toInt_toInt32 h]
  change ((raw.toNat : Int) - 65536).bmod 4294967296 = _
  exact Int.bmod_eq_of_le (by omega) (by omega)

/-- A temperature wraps around where a two's-complement number does. -/
theorem temperature_toUInt32 (w : UInt16) : temperature w.toUInt32 = signedScaled w := by
  have h : w.toNat < 65536 := w.toNat_lt
  have h16 : w.toInt16.toInt = (w.toNat : Int).bmod 65536 := by
    rw [Int16.toInt, UInt16.toBitVec_toInt16, BitVec.toInt_eq_toNat_bmod]
    rfl
  have hraw : w.toUInt32.toNat < 2147483648 := Nat.lt_trans h (by decide)
  have hlt : w.toUInt32 < 32768 ↔ w.toNat < 32768 := UInt32.lt_iff_toNat_lt
  rw [temperature, signedScaled, h16]
  by_cases hw : w.toNat < 32768
  · rw [if_pos (hlt.mpr hw), toInt_toInt32 hraw, UInt16.toNat_toUInt32,
      Int.bmod_eq_of_le (by omega) (by omega)]
  · rw [if_neg (mt hlt.mp hw), toInt_toInt32_sub hraw, UInt16.toNat_toUInt32,
      ← Int.sub_bmod_right, Int.bmod_eq_of_le (by omega) (by omega)]
    rfl

lemma readTemperatures_eq (data : Bytes) :
    readTemperatures data =
      if data.length < 4 then .error (.tooShort "temperature pair" 4 data.length)
      else .ok (signedScaled (wordAt data 0), signedScaled (wordAt data 1)) := by
  match data with
  | [] => rfl
  | [a] => rfl
  | [a, b] => rfl
  | [a, b, c] => rfl
  | a :: b :: c :: d :: rest =>
      rw [readTemperatures, temperature_toUInt32, temperature_toUInt32]
      exact (if_neg (by simp)).symm

lemma slice_eq (data : Bytes) (index count : Nat) :
    slice data index count =
      if data.length < index * 2 + count * 2 then
        .error (.tooShort "register slice" (index * 2 + count * 2) data.length)
      else .ok ((data.drop (index * 2)).take (count * 2)) := by
  simp only [slice, require]
  split
  · rfl
  · rfl

/-- The first word of one register out of a block is the word at its place. -/
lemma readWord_slice (what : String) (data : Bytes) (index : Nat) :
    (slice data index 1 >>= readWord what) =
      if data.length < index * 2 + 1 * 2 then
        .error (.tooShort "register slice" (index * 2 + 1 * 2) data.length)
      else .ok (wordAt data index) := by
  rw [slice_eq]
  split
  · rfl
  · next h =>
    have hlength : ¬ ((data.drop (index * 2)).take (1 * 2)).length < 2 := by
      rw [List.length_take, List.length_drop]
      omega
    refine (readWord_eq _ _).trans ((if_neg hlength).trans ?_)
    rw [Nat.mul_comm 1, Nat.mul_comm index, wordAt_take Nat.one_pos, wordAt_drop, Nat.add_zero]

/-- One unsigned quantity in hundredths out of a block. -/
lemma readScaled_slice (data : Bytes) (index : Nat) :
    (slice data index 1 >>= readScaled) =
      if data.length < index * 2 + 1 * 2 then
        .error (.tooShort "register slice" (index * 2 + 1 * 2) data.length)
      else .ok (scaled (wordAt data index)) := by
  have hmap := map_bind scaled (slice data index 1) (readWord "scaled float")
  refine hmap.symm.trans ?_
  rw [readWord_slice, apply_ite (scaled <$> ·)]
  rfl

end Register

end ChargeController
