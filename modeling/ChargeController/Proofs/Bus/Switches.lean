import ChargeController.Proofs.Bus.Rows
import Mathlib.Data.Nat.Bitwise

/-!
# Switches in bytes

A row of switches travels eight to a byte, the first one lowest, and the places that are left over
in the last byte are off.  Bytes of a given length that carry a row are determined by it, so it does
not matter how they come about: byte by byte, or in place, where zero bytes are gone through and one
place after the other is switched on.  Either way the row is read back from them.

* `switchAt?`, `Carries` — the switch at a place of some bytes, and the row that they carry.
* **`carries_packSwitches`** — packed bytes carry what was packed.
* **`fill?_of_carries`** — what filling in place keeps: so far, the bytes carry what has been seen.
* **`packing_loses_nothing`** — packed switches, their bytes, and rows that end with a byte.
* **`Device.read_switches`** — what a read of switches tells.
-/

namespace ChargeController

namespace Register

/-! ## Places -/

/-- The switch at a place of some bytes, unless they end before. -/
def switchAt? (data : Bytes) (i : Nat) : Option Bool :=
  data[i / 8]?.map fun byte => byte.toNat.testBit (i % 8)

lemma switchAt?_mul_add {data : Bytes} {n k : Nat} (hk : k < 8) :
    switchAt? data (8 * n + k) = data[n]?.map fun byte => byte.toNat.testBit k := by
  have hdiv : (8 * n + k) / 8 = n := by omega
  have hmod : (8 * n + k) % 8 = k := by omega
  rw [switchAt?, hdiv, hmod]

lemma byte_ext {b c : UInt8} (h : ∀ k < 8, b.toNat.testBit k = c.toNat.testBit k) : b = c := by
  have hhigh (b : UInt8) {k : Nat} (hk : 8 ≤ k) : b.toNat.testBit k = false :=
    Nat.testBit_lt_two_pow (Nat.lt_of_lt_of_le b.toNat_lt (Nat.pow_le_pow_right (by decide) hk))
  apply UInt8.toNat_inj.mp
  apply Nat.eq_of_testBit_eq
  intro k
  rcases Nat.lt_or_ge k 8 with hk | hk
  · exact h k hk
  · rw [hhigh b hk, hhigh c hk]

lemma switchAt?_append (a b : Bytes) (i : Nat) :
    switchAt? (a ++ b) i =
      if i < 8 * a.length then switchAt? a i else switchAt? b (i - 8 * a.length) := by
  split
  · next h =>
    have hlt : i / 8 < a.length := by omega
    rw [switchAt?, List.getElem?_append_left hlt, switchAt?]
  · next h =>
    have hle : a.length ≤ i / 8 := by omega
    have hdiv : (i - 8 * a.length) / 8 = i / 8 - a.length := by omega
    have hmod : (i - 8 * a.length) % 8 = i % 8 := by omega
    rw [switchAt?, List.getElem?_append_right hle, switchAt?, hdiv, hmod]

/-- Bytes carry a row of switches: it has the first of their places, and all others are off. -/
structure Carries (data : Bytes) (row : List Bool) : Prop where
  fits : row.length ≤ 8 * data.length
  place : ∀ i < 8 * data.length, switchAt? data i = some (row.getD i false)

namespace Carries

variable {a b : Bytes} {row row' : List Bool}

/-- Bytes are determined by their number and the row that they carry. -/
lemma bytes_eq (ha : Carries a row) (hb : Carries b row) (hlength : a.length = b.length) :
    a = b := by
  apply List.ext_getElem hlength
  intro n hn hn'
  refine byte_ext fun k hk => ?_
  have hlt : 8 * n + k < 8 * a.length := by omega
  have hplace : switchAt? a (8 * n + k) = switchAt? b (8 * n + k) := by
    rw [ha.place _ hlt, hb.place _ (hlength ▸ hlt)]
  rw [switchAt?_mul_add hk, switchAt?_mul_add hk, List.getElem?_eq_getElem hn,
    List.getElem?_eq_getElem hn'] at hplace
  exact Option.some.inj hplace

lemma of_lt (h : Carries a row) {i : Nat} (hi : i < row.length) : switchAt? a i = row[i]? := by
  rw [h.place i (Nat.lt_of_lt_of_le hi h.fits), List.getD_eq_getElem?_getD,
    List.getElem?_eq_getElem hi, Option.getD_some]

lemma of_le (h : Carries a row) {i : Nat} (hi : row.length ≤ i) (hlt : i < 8 * a.length) :
    switchAt? a i = some false := by
  rw [h.place i hlt, List.getD_eq_getElem?_getD, List.getElem?_eq_none hi, Option.getD_none]

/-- A row is determined by its length and the bytes that carry it. -/
lemma row_eq (h : Carries a row) (h' : Carries a row') (hlength : row.length = row'.length) :
    row = row' := by
  apply List.ext_getElem?
  intro i
  rcases Nat.lt_or_ge i row.length with hi | hi
  · rw [← h.of_lt hi, h'.of_lt (hlength ▸ hi)]
  · rw [List.getElem?_eq_none hi, List.getElem?_eq_none (hlength ▸ hi)]

/-- A row that leaves no place over may be followed by another. -/
lemma append (ha : Carries a row) (hb : Carries b row') (hfull : row.length = 8 * a.length) :
    Carries (a ++ b) (row ++ row') where
  fits := by
    have hfits := hb.fits
    rw [List.length_append, List.length_append]
    omega
  place i hi := by
    rw [List.length_append] at hi
    rw [switchAt?_append, List.getD_eq_getElem?_getD]
    split
    · next hlt => rw [ha.of_lt (by omega), List.getElem?_append_left (by omega),
        List.getElem?_eq_getElem (by omega), Option.getD_some]
    · next hge => rw [hb.place _ (by omega), List.getElem?_append_right (by omega), hfull,
        List.getD_eq_getElem?_getD]

end Carries

/-! ## Byte by byte -/

lemma toNat_switchByte_cons (on : Bool) {rest : List Bool} (h : (switchByte rest).toNat < 2 ^ 7) :
    (switchByte (on :: rest)).toNat = Nat.bit on (switchByte rest).toNat := by
  cases on with
  | false =>
      rw [switchByte, UInt8.toNat_add, UInt8.toNat_mul]
      show (0 + 2 * (switchByte rest).toNat % 2 ^ 8) % 2 ^ 8 = 2 * (switchByte rest).toNat
      omega
  | true =>
      rw [switchByte, UInt8.toNat_add, UInt8.toNat_mul]
      show (1 + 2 * (switchByte rest).toNat % 2 ^ 8) % 2 ^ 8 = 2 * (switchByte rest).toNat + 1
      omega

lemma toNat_switchByte_lt {row : List Bool} {n : Nat} (hrow : row.length ≤ n) (hn : n ≤ 8) :
    (switchByte row).toNat < 2 ^ n := by
  induction row generalizing n with
  | nil => exact Nat.two_pow_pos n
  | cons on rest ih =>
      cases n with
      | zero => cases hrow
      | succ n =>
          rw [List.length_cons] at hrow
          have hlt : (switchByte rest).toNat < 2 ^ n := ih (by omega) (by omega)
          rw [toNat_switchByte_cons on (ih (by omega) (by decide)), Nat.bit_val, Nat.pow_succ]
          have hon : on.toNat < 2 := on.toNat_lt
          omega

/-- The bits of a byte of switches are the switches. -/
lemma testBit_switchByte {row : List Bool} (k : Nat) (hrow : row.length ≤ 8) :
    (switchByte row).toNat.testBit k = row.getD k false := by
  induction row generalizing k with
  | nil => exact Nat.zero_testBit k
  | cons on rest ih =>
      rw [List.length_cons] at hrow
      -- one bit is still free below the topmost, so nothing is lost when the rest moves up
      have hlt : (switchByte rest).toNat < 2 ^ 7 := toNat_switchByte_lt (by omega) (by decide)
      rw [toNat_switchByte_cons on hlt]
      cases k with
      | zero => rw [Nat.testBit_bit_zero, List.getD_cons_zero]
      | succ k => rw [Nat.testBit_bit_succ, List.getD_cons_succ, ih k (by omega)]

lemma length_packSwitches (row : List Bool) : (packSwitches row).length = (row.length + 7) / 8 := by
  rw [packSwitches, List.length_map, List.length_range]

/-- **Packed bytes carry what was packed.** -/
theorem carries_packSwitches (row : List Bool) : Carries (packSwitches row) row where
  fits := by
    rw [length_packSwitches]
    omega
  place i hi := by
    rw [length_packSwitches] at hi
    have hbyte : i / 8 < (row.length + 7) / 8 := by omega
    have hcut : ((row.drop (8 * (i / 8))).take 8).length ≤ 8 := List.length_take_le _ _
    rw [switchAt?, packSwitches, List.getElem?_map, List.getElem?_range hbyte, Option.map_some,
      Option.map_some, testBit_switchByte _ hcut, List.getD_eq_getElem?_getD,
      List.getElem?_take_of_lt (Nat.mod_lt i (by decide)), List.getElem?_drop,
      Nat.div_add_mod, List.getD_eq_getElem?_getD]

/-! ## In place -/

/-- Switches a place of some bytes on, unless they end before. -/
def switchOn? (data : Bytes) (i : Nat) : Option Bytes :=
  if i / 8 < data.length then
    some (data.modify (i / 8) fun byte => byte ||| 1 <<< UInt8.ofNat (i % 8))
  else none

/-- Goes through a row of switches, the first of which has the given place in some bytes, and
switches on the places of those that are on. -/
def fill? (data : Bytes) (i : Nat) : List Bool → Option Bytes
  | [] => some data
  | on :: rest =>
      (if on then switchOn? data i else some data).bind fun data => fill? data (i + 1) rest

lemma testBit_or_shift (byte : UInt8) {k : Nat} (hk : k < 8) (j : Nat) :
    (byte ||| 1 <<< UInt8.ofNat k).toNat.testBit j = (byte.toNat.testBit j || decide (j = k)) := by
  have hk' : (UInt8.ofNat k).toNat % 8 = k := by
    rw [UInt8.toNat_ofNat_of_lt' (Nat.lt_trans hk (by decide)), Nat.mod_eq_of_lt hk]
  have hpow : 2 ^ k < 2 ^ 8 := Nat.pow_lt_pow_right (by decide) hk
  have hone : (1 <<< UInt8.ofNat k : UInt8).toNat = 2 ^ k := by
    rw [UInt8.toNat_shiftLeft, hk', UInt8.toNat_one, Nat.one_shiftLeft, Nat.mod_eq_of_lt hpow]
  rw [UInt8.toNat_or, Nat.testBit_or, hone, Nat.testBit_two_pow, decide_eq_decide.mpr eq_comm]

/-- A place that is switched on is on, and all others are as they were. -/
lemma switchOn?_eq_some {data : Bytes} {i : Nat} (h : i < 8 * data.length) :
    ∃ data', switchOn? data i = some data' ∧ data'.length = data.length ∧
      ∀ j, switchAt? data' j = (switchAt? data j).map (· || decide (j = i)) := by
  have hbyte : i / 8 < data.length := by omega
  refine ⟨_, if_pos hbyte, List.length_modify _ _ _, fun j => ?_⟩
  rw [switchAt?, switchAt?, Option.map_map]
  by_cases hsame : i / 8 = j / 8
  · have hplace : decide (j = i) = decide (j % 8 = i % 8) := decide_eq_decide.mpr (by omega)
    rw [hsame, List.getElem?_modify_eq, Option.map_eq_map, Option.map_map]
    congr 1
    funext byte
    exact (testBit_or_shift byte (Nat.mod_lt i (by decide)) _).trans (hplace ▸ rfl)
  · have hplace : decide (j = i) = false := decide_eq_false (by omega)
    rw [List.getElem?_modify_ne _ _ hsame]
    congr 1
    funext byte
    rw [Function.comp_apply, hplace, Bool.or_false]

lemma getD_concat (row : List Bool) (on : Bool) (i : Nat) :
    (row ++ [on]).getD i false = (row.getD i false || (on && decide (i = row.length))) := by
  simp only [List.getD_eq_getElem?_getD]
  rcases Nat.lt_trichotomy i row.length with h | rfl | h
  · rw [List.getElem?_append_left h, decide_eq_false h.ne, Bool.and_false, Bool.or_false]
  · rw [List.getElem?_concat_length, List.getElem?_eq_none (Nat.le_refl _), decide_eq_true rfl,
      Bool.and_true, Option.getD_none, Bool.false_or, Option.getD_some]
  · rw [List.getElem?_eq_none h.le, decide_eq_false h.ne', Bool.and_false, Bool.or_false,
      List.getElem?_eq_none (by rw [List.length_append, List.length_singleton]; exact h)]

namespace Carries

lemma zeros (n : Nat) : Carries (List.replicate n 0) [] where
  fits := Nat.zero_le _
  place i hi := by
    have hbyte : i / 8 < n := by
      rw [List.length_replicate] at hi
      omega
    rw [switchAt?, List.getElem?_replicate_of_lt hbyte, Option.map_some]
    exact congrArg some (Nat.zero_testBit _)

/-- A step: bytes that carry what has been seen come to carry one switch more. -/
lemma step {data : Bytes} {seen : List Bool} (h : Carries data seen) (on : Bool)
    (hroom : seen.length < 8 * data.length) :
    ∃ data', (if on then switchOn? data seen.length else some data) = some data' ∧
      data'.length = data.length ∧ Carries data' (seen ++ [on]) := by
  have hfits : (seen ++ [on]).length ≤ 8 * data.length := by
    rw [List.length_append]
    exact hroom
  cases on with
  | false =>
      refine ⟨data, rfl, rfl, hfits, fun i hi => ?_⟩
      rw [h.place i hi, getD_concat, Bool.false_and, Bool.or_false]
  | true =>
      obtain ⟨data', hon, hlength, hplaces⟩ := switchOn?_eq_some hroom
      refine ⟨data', hon, hlength, hlength ▸ hfits, fun i hi => ?_⟩
      rw [hplaces, h.place i (hlength ▸ hi), getD_concat, Bool.true_and, Option.map_some]

end Carries

/-- **Filling in place**: the bytes carry what has been seen, from the first switch to the last, and
no place is past their end. -/
theorem fill?_of_carries {data : Bytes} {seen rest : List Bool} (h : Carries data seen)
    (hroom : (seen ++ rest).length ≤ 8 * data.length) :
    ∃ data', fill? data seen.length rest = some data' ∧ data'.length = data.length ∧
      Carries data' (seen ++ rest) := by
  -- what is gone through moves over from the rest to what has been seen
  induction rest generalizing data seen with
  | nil => exact ⟨data, rfl, rfl, by rwa [List.append_nil]⟩
  | cons on rest ih =>
      have hplace : seen.length < 8 * data.length := by
        rw [List.length_append, List.length_cons] at hroom
        omega
      obtain ⟨next, hnext, hlength, hcarries⟩ := h.step on hplace
      rw [List.append_cons] at hroom ⊢
      obtain ⟨data', hfill, hlength', hcarries'⟩ := ih hcarries (hlength ▸ hroom)
      refine ⟨data', ?_, hlength'.trans hlength, hcarries'⟩
      rw [List.length_append] at hfill
      rw [fill?, hnext]
      exact hfill

/-- Zero bytes that are filled in place are the packed ones. -/
lemma fill?_zeros (row : List Bool) :
    fill? (List.replicate ((row.length + 7) / 8) 0) 0 row = some (packSwitches row) := by
  have hzeros := Carries.zeros ((row.length + 7) / 8)
  have hlength : (List.replicate ((row.length + 7) / 8) (0 : UInt8)).length =
      (packSwitches row).length := by
    rw [List.length_replicate, length_packSwitches]
  generalize List.replicate ((row.length + 7) / 8) (0 : UInt8) = zeros at hzeros hlength ⊢
  have hpacked := carries_packSwitches row
  have hroom : ([] ++ row).length ≤ 8 * zeros.length := hlength ▸ hpacked.fits
  obtain ⟨data, hfill, hsame, hcarries⟩ := fill?_of_carries hzeros hroom
  exact hfill.trans (congrArg some (hcarries.bytes_eq hpacked (hsame.trans hlength)))

/-! ## Rows that end with a byte -/

/-- A row that ends with a byte is packed apart from what follows. -/
lemma packSwitches_append {row : List Bool} (hwhole : 8 ∣ row.length) (rest : List Bool) :
    packSwitches (row ++ rest) = packSwitches row ++ packSwitches rest := by
  have hfull : row.length = 8 * (packSwitches row).length := by
    rw [length_packSwitches]
    omega
  have hboth := (carries_packSwitches row).append (carries_packSwitches rest) hfull
  refine (carries_packSwitches (row ++ rest)).bytes_eq hboth ?_
  simp only [List.length_append, length_packSwitches]
  omega

/-- **Packing loses nothing.**

* A row of switches is packed into a byte for every eight of them, and one for what is left over.
* Each switch is found at its place, eight to a byte and the lowest first, and the places that are
  left over in the last byte are off; so no two rows of one length are packed alike.
* To go through as many zero bytes and switch on one place after the other has the same outcome,
  and never comes to a place past their end.
* A row that ends with a byte is packed apart from what follows. -/
theorem packing_loses_nothing :
    (∀ row : List Bool,
      (packSwitches row).length = (row.length + 7) / 8 ∧
      (∀ i < row.length, switchAt? (packSwitches row) i = row[i]?) ∧
      (∀ i, row.length ≤ i → i < 8 * (packSwitches row).length →
        switchAt? (packSwitches row) i = some false) ∧
      fill? (List.replicate ((row.length + 7) / 8) 0) 0 row = some (packSwitches row)) ∧
    (∀ row row' : List Bool, row.length = row'.length → packSwitches row = packSwitches row' →
      row = row') ∧
    ∀ row rest : List Bool, 8 ∣ row.length →
      packSwitches (row ++ rest) = packSwitches row ++ packSwitches rest := by
  refine ⟨fun row => ?_, fun row row' hlength hequal => ?_, fun row rest hwhole => ?_⟩
  · have hpacked := carries_packSwitches row
    exact ⟨length_packSwitches row, fun i hi => hpacked.of_lt hi,
      fun i hi hlt => hpacked.of_le hi hlt, fill?_zeros row⟩
  · exact (carries_packSwitches row).row_eq (hequal ▸ carries_packSwitches row') hlength
  · exact packSwitches_append hwhole rest

/-- Eight switches, and three more behind them. -/
theorem eleven_switches_packed :
    let row := [true, false, true, true, false, false, false, true]
    let rest := [false, true, true]
    8 ∣ row.length ∧ packSwitches (row ++ rest) = packSwitches row ++ packSwitches rest ∧
      packSwitches row = [0x8D] ∧ packSwitches rest = [0x06] ∧
      7 < row.length ∧ switchAt? (packSwitches row) 7 = row[7]? ∧
      rest.length ≤ 5 ∧ 5 < 8 * (packSwitches rest).length ∧
      switchAt? (packSwitches rest) 5 = some false ∧
      [false, true, false].length = rest.length ∧
      packSwitches [false, true, false] ≠ packSwitches rest := by
  intro row rest
  obtain ⟨hplaces, hinjective, happend⟩ := packing_loses_nothing
  obtain ⟨-, hrow, -, -⟩ := hplaces row
  obtain ⟨-, -, hrest, -⟩ := hplaces rest
  refine ⟨by decide, happend row rest (by decide), by decide, by decide, by decide,
    hrow 7 (by decide), by decide, by decide, hrest 5 (by decide) (by decide), rfl,
    fun hequal => ?_⟩
  exact absurd (hinjective [false, true, false] rest rfl hequal) (by decide)

end Register

/-! ## Reading switches -/

namespace Device

/-- The switches of a table, if it has switches. -/
def switches? (d : Device) : Table → Option SwitchBank
  | .coil => some d.coils
  | .discreteInput => some d.discrete
  | .holding => none
  | .input => none

lemma getD_readSwitches (bank : SwitchBank) (a q : UInt16) (i : Nat) :
    (readSwitches bank a q).getD i false =
      (decide (i < q.toNat ∧ a.toNat + i < UInt16.size) && bank (a + UInt16.ofNat i)) := by
  rw [readSwitches, List.getD_eq_getElem?_getD, List.getElem?_map]
  by_cases hi : i < q.toNat
  · rw [List.getElem?_range hi, Option.map_some, Option.getD_some]
    by_cases hfits : a.toNat + i < UInt16.size
    · rw [offsetAddress?_eq hfits, decide_eq_true ⟨hi, hfits⟩, Bool.true_and]
      rfl
    · rw [offsetAddress?, if_neg hfits, decide_eq_false fun h => hfits h.2, Bool.false_and]
      rfl
  · have hnone : (List.range q.toNat)[i]? = none :=
      List.getElem?_eq_none (by rw [List.length_range]; omega)
    rw [hnone, decide_eq_false fun h => hi h.1, Bool.false_and]
    rfl

lemma respond_switches {d : Device} (hplain : d.Plain) {table : Table} {bank : SwitchBank}
    (hbank : d.switches? table = some bank) (a q : UInt16) :
    (d.respond (.read table a q)).1 = .ok (Register.packSwitches (readSwitches bank a q)) := by
  rw [respond_of_plain hplain]
  cases table with
  | coil => cases hbank; rfl
  | discreteInput => cases hbank; rfl
  | holding => cases hbank
  | input => cases hbank

/-- **A read of switches** is answered with a byte for every eight of them, in which each has its
place; a switch past the last address is off, and so is a place past the last switch. -/
theorem read_switches {d : Device} (hplain : d.Plain) {table : Table} {bank : SwitchBank}
    (hbank : d.switches? table = some bank) (a q : UInt16) :
    ∃ data, (d.respond (.read table a q)).1 = .ok data ∧ data.length = (q.toNat + 7) / 8 ∧
      ∀ i < 8 * data.length, Register.switchAt? data i =
        some (decide (i < q.toNat ∧ a.toNat + i < UInt16.size) && bank (a + UInt16.ofNat i)) := by
  refine ⟨_, respond_switches hplain hbank a q, ?_, fun i hi => ?_⟩
  · rw [Register.length_packSwitches, readSwitches, List.length_map, List.length_range]
  · rw [(Register.carries_packSwitches _).place i hi, getD_readSwitches]

end Device

end ChargeController
