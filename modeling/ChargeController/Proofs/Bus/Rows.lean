import ChargeController.Bus.Device
import Mathlib.Data.List.Forall2
import Mathlib.Tactic.Lemma

/-!
# Rows of registers

A row of registers is read register by register, and all of it or nothing: it has a word from each
of its places, or a place without a word refuses it.

* `Device.readRegisters_word` — each word of a row is the word of its place.
* **`Device.readRegisters_cases`** — a row that does not run past the last address.
* **`Device.writeRow_word`** — a row that is written, register by register.
* **`Device.writeRow_twice`** — a row that is written again leaves what it left before.
* `Device.live` — the input registers as they read.
* **`Device.respond_of_plain`** — without a script, a device answers from its banks.
-/

namespace ChargeController

section

variable {ε α β : Type} {f : α → Except ε β} {xs : List α}

lemma mapM_eq_ok_iff {ys : List β} :
    xs.mapM f = .ok ys ↔ List.Forall₂ (fun x y => f x = .ok y) xs ys := by
  induction xs generalizing ys with
  | nil =>
      rw [List.forall₂_nil_left_iff]
      exact ⟨fun h => (Except.ok.inj h).symm, fun h => h ▸ rfl⟩
  | cons x xs ih =>
      rw [List.mapM_cons, List.forall₂_cons_left_iff]
      cases hx : f x with
      | error fault => exact iff_of_false (fun h => by cases h) fun ⟨_, _, h, _⟩ => by cases h
      | ok y =>
          cases hxs : xs.mapM f with
          | error fault =>
              refine iff_of_false (fun h => by cases h) fun ⟨_, rest, _, h, _⟩ => ?_
              rw [ih.mpr h] at hxs
              cases hxs
          | ok rest =>
              constructor
              · intro h
                exact ⟨y, rest, rfl, ih.mp hxs, (Except.ok.inj h).symm⟩
              · rintro ⟨_, rest', hy, h, rfl⟩
                obtain rfl := Except.ok.inj hy
                obtain rfl := Except.ok.inj (hxs.symm.trans (ih.mpr h))
                rfl

lemma mapM_eq_map {g : α → β} (h : ∀ x ∈ xs, f x = .ok (g x)) : xs.mapM f = .ok (xs.map g) :=
  mapM_eq_ok_iff.mpr (List.forall₂_map_right_iff.mpr (List.forall₂_same.mpr h))

end

/-- The request that reads a register. -/
def Register.readRequest (r : Register) : Request :=
  .read r.table r.address r.quantity

namespace Device

/-! ## The words of a row -/

lemma readRegister_word {b : Bank} {a : UInt16} {i : Nat} {word : UInt16}
    (h : readRegister b none a i = .ok word) :
    ∃ address, offsetAddress? a i = some address ∧ b address = some word := by
  simp only [readRegister] at h
  split at h
  · cases h
  · next address haddress =>
      refine ⟨address, haddress, ?_⟩
      cases hword : b address with
      | none =>
          rw [hword] at h
          cases h
      | some word' =>
          rw [hword] at h
          obtain rfl := Except.ok.inj h
          rfl

/-- Each word of a row is the word of its place. -/
lemma readRegisters_word {b : Bank} {a q : UInt16} {words : List UInt16}
    (h : readRegisters b none a q = .ok words) {i : Nat} (hi : i < q.toNat) :
    ∃ address word, offsetAddress? a i = some address ∧ b address = some word ∧
      words[i]? = some word := by
  have hall := mapM_eq_ok_iff.mp h
  have hlength : words.length = q.toNat := by rw [← hall.length_eq, List.length_range]
  have hword := hall.get (i := i) (by rwa [List.length_range]) (by rwa [hlength])
  rw [List.get_eq_getElem, List.get_eq_getElem, List.getElem_range] at hword
  obtain ⟨address, haddress, hbank⟩ := readRegister_word hword
  exact ⟨address, _, haddress, hbank, List.getElem?_eq_getElem (by rwa [hlength])⟩

lemma offsetAddress?_eq {a : UInt16} {i : Nat} (h : a.toNat + i < UInt16.size) :
    offsetAddress? a i = some (a + UInt16.ofNat i) := by
  simp only [offsetAddress?, if_pos h]
  refine congrArg some (UInt16.toNat_inj.mp ?_)
  rw [UInt16.toNat_add, UInt16.toNat_ofNat', UInt16.toNat_ofNat']
  omega

lemma readRegister_eq {b : Bank} {fill : Option UInt16} {a : UInt16} {i : Nat} {word : UInt16}
    (hfits : a.toNat + i < UInt16.size) (hword : b (a + UInt16.ofNat i) = some word) :
    readRegister b fill a i = .ok word := by
  simp only [readRegister, offsetAddress?_eq hfits, hword]
  rfl

/-- **A row that does not run past the last address has all its words, or is refused because of a
place without one.** -/
theorem readRegisters_cases (b : Bank) {a q : UInt16} (hfits : a.toNat + q.toNat ≤ UInt16.size) :
    ((∀ i < q.toNat, (b (a + UInt16.ofNat i)).isSome) ∧ readRegisters b none a q =
        .ok ((List.range q.toNat).map fun i => (b (a + UInt16.ofNat i)).getD 0)) ∨
      (¬ ∀ i < q.toNat, (b (a + UInt16.ofNat i)).isSome) ∧
        ∃ fault, readRegisters b none a q = .error fault := by
  by_cases hall : ∀ i < q.toNat, (b (a + UInt16.ofNat i)).isSome
  · refine .inl ⟨hall, mapM_eq_map fun i hi => ?_⟩
    have hlt := List.mem_range.mp hi
    obtain ⟨word, hword⟩ := Option.isSome_iff_exists.mp (hall i hlt)
    rw [hword]
    exact readRegister_eq (by omega) hword
  · refine .inr ⟨hall, ?_⟩
    cases hread : readRegisters b none a q with
    | error fault => exact ⟨fault, rfl⟩
    | ok words =>
        refine absurd (fun i hi => ?_) hall
        obtain ⟨address, word, haddress, hword, -⟩ := readRegisters_word hread hi
        rw [offsetAddress?_eq (by omega)] at haddress
        obtain rfl := Option.some.inj haddress
        exact Option.isSome_of_eq_some hword

/-- What fills a bank is read like the words in it. -/
lemma readRegisters_filled (b : Bank) (fill : Option UInt16) (a q : UInt16) :
    readRegisters (fun a => b a <|> fill) none a q = readRegisters b fill a q := by
  simp only [readRegisters]
  congr 1
  funext offset
  simp only [readRegister]
  split
  · rfl
  · next a _ =>
      have hsome : ((b a <|> fill) <|> none) = (b a <|> fill) := by cases b a <|> fill <;> rfl
      rw [hsome]

/-! ## Writing a row -/

lemma offsetAddress?_eq_some {address a : UInt16} {offset : Nat} :
    offsetAddress? address offset = some a ↔ a.toNat = address.toNat + offset := by
  rw [offsetAddress?]
  constructor
  · intro h
    split at h
    · next hlt =>
        obtain rfl := Option.some.inj h
        exact UInt16.toNat_ofNat_of_lt' hlt
    · cases h
  · intro h
    rw [← h, if_pos a.toNat_lt, UInt16.ofNat_toNat]

/-- What is there already can be put there without a change. -/
lemma put_eq_self {α : Type} {bank : UInt16 → α} {address : UInt16} {value : α}
    (h : bank address = value) : put bank address value = bank := by
  funext a
  by_cases ha : a = address
  · rw [ha, put_same, h]
  · exact put_of_ne ha

/-- **What a row leaves in a register**: its own word for the register, if it has one. -/
theorem writeRow_word (b : Bank) (a : UInt16) (offset : Nat) (words : List UInt16) (x : UInt16) :
    (writeRow b a offset words).1 x =
      if a.toNat + offset ≤ x.toNat then words[x.toNat - (a.toNat + offset)]?.or (b x)
      else b x := by
  induction words generalizing b offset with
  | nil => simp [writeRow]
  | cons w rest ih =>
      simp only [writeRow]
      cases hplace : offsetAddress? a offset with
      | none =>
          have hbefore : ¬ a.toNat + offset ≤ x.toNat := by
            intro hle
            rw [offsetAddress?, if_pos (Nat.lt_of_le_of_lt hle x.toNat_lt)] at hplace
            cases hplace
          rw [if_neg hbefore]
      | some place =>
          have hat := offsetAddress?_eq_some.mp hplace
          show (writeRow (put b place (some w)) a (offset + 1) rest).1 x = _
          rw [ih, ← Nat.add_assoc, ← hat]
          by_cases hx : x = place
          · rw [hx, if_neg (Nat.not_succ_le_self _), if_pos (Nat.le_refl _), put_same, Nat.sub_self]
            rfl
          · rw [put_of_ne hx]
            have hne : x.toNat ≠ place.toNat := fun h => hx (UInt16.toNat_inj.mp h)
            by_cases hle : place.toNat ≤ x.toNat
            · rw [if_pos (by omega), if_pos hle,
                show x.toNat - place.toNat = x.toNat - (place.toNat + 1) + 1 by omega]
              rfl
            · rw [if_neg (by omega), if_neg hle]

/-- A row is accepted if it does not run past the last address. -/
lemma writeRow_outcome (b : Bank) {a : UInt16} {offset : Nat} (words : List UInt16)
    (hstart : a.toNat + offset ≤ UInt16.size) :
    (writeRow b a offset words).2 =
      if a.toNat + offset + words.length ≤ UInt16.size then .ok ()
      else .error (.invalid .addressOverflow) := by
  induction words generalizing b offset with
  | nil => exact (if_pos hstart).symm
  | cons w rest ih =>
      simp only [writeRow, List.length_cons]
      by_cases hlt : a.toNat + offset < UInt16.size
      · rw [offsetAddress?_eq hlt]
        show (writeRow _ a (offset + 1) rest).2 = _
        rw [ih _ hlt]
        exact if_congr (by omega) rfl rfl
      · rw [offsetAddress?, if_neg hlt, if_neg (by omega)]

/-- A row that is written leaves every register as it is that is not at one of its places. -/
lemma writeRow_of_not_reached {a address : UInt16} {words : List UInt16} {offset : Nat}
    (h : ∀ i < words.length, offsetAddress? address (offset + i) ≠ some a) (b : Bank) :
    (writeRow b address offset words).1 a = b a := by
  rw [writeRow_word]
  split
  · next hle =>
      have hnone : words[a.toNat - (address.toNat + offset)]? = none := by
        refine List.getElem?_eq_none_iff.mpr (Nat.not_lt.mp fun hlt => h _ hlt ?_)
        rw [offsetAddress?_eq_some]
        omega
      rw [hnone, Option.none_or]
  · rfl

/-- The rest of a row goes past the register that its first word was written to. -/
lemma writeRow_past {address a : UInt16} {offset : Nat}
    (ha : offsetAddress? address offset = some a) (b : Bank) (w : UInt16) (rest : List UInt16) :
    (writeRow (put b a (some w)) address (offset + 1) rest).1 a = some w := by
  have hat := offsetAddress?_eq_some.mp ha
  rw [writeRow_word, if_neg (by omega), put_same]

/-- A row that is written once more changes nothing. -/
theorem writeRow_twice (b : Bank) (address : UInt16) (offset : Nat) (words : List UInt16) :
    writeRow (writeRow b address offset words).1 address offset words =
      writeRow b address offset words := by
  induction words generalizing b offset with
  | nil => rfl
  | cons w rest ih =>
      rw [writeRow.eq_2 b]
      cases ha : offsetAddress? address offset with
      | none => simp only [writeRow, ha]
      | some a =>
          simp only [writeRow, ha]
          rw [put_eq_self (writeRow_past ha b w rest), ih]

/-! ## Devices without a script -/

lemma override_plain {d : Device} (hplain : ∀ a, d.overrides a = none) (r : Request)
    (answer : Answer) : d.override r <$> answer = answer := by
  cases answer with
  | error fault => rfl
  | ok bytes =>
      refine congrArg Except.ok ?_
      simp only [override]
      rw [hplain]
      split
      · rfl
      · rfl

lemma perform_overrides (d : Device) (r : Request) : (d.perform r).2.overrides = d.overrides := by
  cases r with
  | read t a q => cases t <;> rfl
  | writeWord a value => rfl
  | writeWords a words => rfl

/-- A rule that is used changes nothing but the rules. -/
lemma useRule_device (d : Device) (r : Request) :
    (d.useRule r).2 = { d with failures := (d.useRule r).2.failures } := by
  simp only [useRule]
  split
  · rfl
  · split
    · rfl
    · split
      · rfl
      · rfl
      · rfl

/-- A device that was told neither to fail nor to answer with other bytes. -/
structure Plain (d : Device) : Prop where
  failures : ∀ a, d.failures a = none
  overrides : ∀ a, d.overrides a = none

/-- The input registers of a device as they read: a missing one reads as the script says. -/
def live (d : Device) : Bank :=
  fun a => d.input a <|> d.fill

/-- **Without a script, a device answers from its banks.** -/
theorem respond_of_plain {d : Device} (hplain : d.Plain) (r : Request) :
    d.respond r = perform { d with received := r :: d.received } r := by
  have hrule : useRule { d with received := r :: d.received } r =
      (false, { d with received := r :: d.received }) := by
    simp only [useRule, hplain.failures]
  simp only [respond, hrule]
  rw [override_plain (by rw [perform_overrides]; exact hplain.overrides)]
  rfl

/-- A device without a script answers a read of input registers as they read. -/
lemma respond_input {d : Device} (hplain : d.Plain) (a q : UInt16) :
    (d.respond (.read .input a q)).1 =
      Register.bytesOfWords <$> readRegisters d.live none a q := by
  rw [respond_of_plain hplain]
  exact congrArg (Register.bytesOfWords <$> ·) (readRegisters_filled d.input d.fill a q).symm

/-- Nothing that a read of input registers depends on has changed. -/
structure Stays (d d' : Device) : Prop where
  input : d'.input = d.input
  fill : d'.fill = d.fill
  failures : d'.failures = d.failures
  overrides : d'.overrides = d.overrides

namespace Stays

variable {d d' d'' : Device}

lemma refl (d : Device) : d.Stays d :=
  ⟨rfl, rfl, rfl, rfl⟩

lemma trans (h : d.Stays d') (h' : d'.Stays d'') : d.Stays d'' :=
  ⟨h'.input.trans h.input, h'.fill.trans h.fill, h'.failures.trans h.failures,
    h'.overrides.trans h.overrides⟩

lemma live (h : d.Stays d') : d'.live = d.live := by
  funext a
  simp only [Device.live, h.input, h.fill]

lemma plain (h : d.Stays d') (hplain : d.Plain) : d'.Plain :=
  ⟨fun a => by rw [h.failures, hplain.failures], fun a => by rw [h.overrides, hplain.overrides]⟩

end Stays

/-- No request changes an input register. -/
theorem respond_stays {d : Device} (hplain : d.Plain) (r : Request) :
    d.Stays (d.respond r).2 := by
  rw [respond_of_plain hplain]
  cases r with
  | read t a q => cases t <;> exact ⟨rfl, rfl, rfl, rfl⟩
  | writeWord a value => exact ⟨rfl, rfl, rfl, rfl⟩
  | writeWords a words => exact ⟨rfl, rfl, rfl, rfl⟩

end Device

end ChargeController
