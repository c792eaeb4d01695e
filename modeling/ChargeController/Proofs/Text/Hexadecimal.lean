import ChargeController.Text.Blank
import ChargeController.Text.Integer
import Mathlib.Data.List.Forall2
import Mathlib.Data.List.TakeWhile
import Mathlib.Data.Nat.Digits.Defs
import Mathlib.Tactic.Lemma

/-!
# Hexadecimal numbers as they are typed

The reader of integers goes from left to right and gives up where the number so far is too large.
Going on never makes it smaller, so what it accepts is told by the digits and their number alone,
however many zeros lead.  What is left of a text without its outer blanks is between them.

* **`trim_between`**, `exists_trim` — blanks around a text, taken off and put back.
* `IsHexDigit`, `IsHex` — the digits of either case, and the number that a row of them stands for.
* **`readUnsigned_eq_ok_iff`** — the texts that are read, and what as.
-/

namespace ChargeController

namespace Text

/-! ## Blanks -/

lemma exists_skipBlanks (s : List Char) :
    ∃ front, s = front ++ skipBlanks s ∧ ∀ c ∈ front, isBlank c = true :=
  ⟨s.takeWhile isBlank, List.takeWhile_append_dropWhile.symm, fun _ => List.mem_takeWhile_imp⟩

lemma skipBlanks_append {front : List Char} (hfront : ∀ c ∈ front, isBlank c = true)
    (s : List Char) : skipBlanks (front ++ s) = skipBlanks s :=
  List.dropWhile_append_of_pos hfront

lemma skipBlanks_of_solid {s : List Char} (hs : ∀ c ∈ s, isBlank c = false) :
    skipBlanks s = s := by
  cases s with
  | nil => rfl
  | cons c rest => exact List.dropWhile_cons_of_neg (by simp [hs c List.mem_cons_self])

/-- A text is what is left of it, between blanks. -/
lemma exists_trim (s : List Char) :
    ∃ front back, s = front ++ trim s ++ back ∧ ∀ c ∈ front ++ back, isBlank c = true := by
  obtain ⟨front, hs, hfront⟩ := exists_skipBlanks s
  obtain ⟨back, hrest, hback⟩ := exists_skipBlanks (skipBlanks s).reverse
  refine ⟨front, back.reverse, ?_, ?_⟩
  · rw [List.append_assoc, trim, ← List.reverse_append, ← hrest, List.reverse_reverse]
    exact hs
  · intro c hc
    rcases List.mem_append.mp hc with hc | hc
    · exact hfront c hc
    · exact hback c (List.mem_reverse.mp hc)

/-- **Blanks around a text without blanks are taken off.** -/
lemma trim_between {front core back : List Char}
    (hblank : ∀ c ∈ front ++ back, isBlank c = true) (hcore : ∀ c ∈ core, isBlank c = false) :
    trim (front ++ core ++ back) = core := by
  have hfront : ∀ c ∈ front, isBlank c = true :=
    fun c hc => hblank c (List.mem_append_left back hc)
  have hback : ∀ c ∈ back.reverse, isBlank c = true :=
    fun c hc => hblank c (List.mem_append_right front (List.mem_reverse.mp hc))
  have hcore' : ∀ c ∈ core.reverse, isBlank c = false :=
    fun c hc => hcore c (List.mem_reverse.mp hc)
  rw [trim, List.append_assoc, skipBlanks_append hfront]
  cases core with
  | nil =>
      have hnone : skipBlanks back = [] :=
        List.dropWhile_eq_nil_iff.mpr fun c hc => hblank c (List.mem_append_right front hc)
      rw [List.nil_append, hnone]
      rfl
  | cons c rest =>
      have hfirst : isBlank c = false := hcore c List.mem_cons_self
      have hstay : skipBlanks (c :: rest ++ back) = c :: rest ++ back :=
        List.dropWhile_cons_of_neg (by simp [hfirst])
      rw [hstay, List.reverse_append, skipBlanks_append hback, skipBlanks_of_solid hcore',
        List.reverse_reverse]

/-! ## Digits -/

/-- The hexadecimal digits in lower case, from zero on. -/
def lowerDigits : List Char :=
  "0123456789abcdef".toList

/-- The hexadecimal digits in upper case, from zero on. -/
def upperDigits : List Char :=
  "0123456789ABCDEF".toList

/-- The hexadecimal digits of either case. -/
def hexDigits : List Char :=
  lowerDigits ++ upperDigits

/-- That a character is the hexadecimal digit of a number, in either case. -/
def IsHexDigit (c : Char) (d : Nat) : Prop :=
  lowerDigits[d]? = some c ∨ upperDigits[d]? = some c

instance (c : Char) (d : Nat) : Decidable (IsHexDigit c d) :=
  inferInstanceAs (Decidable (_ ∨ _))

lemma IsHexDigit.mem {c : Char} {d : Nat} (h : IsHexDigit c d) : c ∈ hexDigits := by
  rcases h with h | h
  · exact List.mem_append_left _ (List.mem_of_getElem? h)
  · exact List.mem_append_right _ (List.mem_of_getElem? h)

lemma IsHexDigit.lt {c : Char} {d : Nat} (h : IsHexDigit c d) : d < 16 := by
  rcases h with h | h
  · exact (List.getElem?_eq_some_iff.mp h).1
  · exact (List.getElem?_eq_some_iff.mp h).1

lemma isHexDigit_ofNat : ∀ n < 128,
    (digitValue? 16 (Char.ofNat n)).all (IsHexDigit (Char.ofNat n) ·) = true := by
  decide +kernel

lemma digitValue?_hexDigits : ∀ d < 16,
    lowerDigits[d]?.all (digitValue? 16 · = some d) = true ∧
      upperDigits[d]?.all (digitValue? 16 · = some d) = true := by
  decide +kernel

/-- **A character has the value of the digit that it is.** -/
lemma digitValue?_eq_some_iff {c : Char} {d : Nat} :
    digitValue? 16 c = some d ↔ IsHexDigit c d := by
  constructor
  · intro h
    -- no character past the first 128 has a value
    have hascii : c.toNat < 128 := by
      simp only [digitValue?, Char.le_def, UInt32.le_iff_toNat_le] at h
      split_ifs at h with h₁ h₂ h₃
      · exact Nat.lt_of_le_of_lt h₁.2 (by decide)
      · exact Nat.lt_of_le_of_lt h₂.2 (by decide)
      · exact Nat.lt_of_le_of_lt h₃.2 (by decide)
      · cases h
    have hdigit := isHexDigit_ofNat c.toNat hascii
    rw [Char.ofNat_toNat, h] at hdigit
    simpa using hdigit
  · intro h
    obtain ⟨hlower, hupper⟩ := digitValue?_hexDigits d h.lt
    rcases h with h | h
    · simpa [h] using hlower
    · simpa [h] using hupper

/-! ## Numbers -/

/-- That a row of hexadecimal digits, highest first, stands for a number. -/
def IsHex (digits : List Char) (n : Nat) : Prop :=
  ∃ ds, List.Forall₂ IsHexDigit digits ds ∧ Nat.ofDigits 16 ds.reverse = n

lemma IsHex.mem {digits : List Char} {n : Nat} (h : IsHex digits n) {c : Char} (hc : c ∈ digits) :
    c ∈ hexDigits := by
  obtain ⟨ds, hdigits, -⟩ := h
  induction hdigits with
  | nil => cases hc
  | cons hd _ ih =>
      rcases List.mem_cons.mp hc with rfl | hc
      · exact hd.mem
      · exact ih hc

/-- That a row of digits continues one number to another. -/
def Continues (digits : List Char) (n m : Nat) : Prop :=
  ∃ ds, List.Forall₂ IsHexDigit digits ds ∧ ds.foldl (fun n d => n * 16 + d) n = m

lemma continues_nil {n m : Nat} : Continues [] n m ↔ n = m := by
  simp only [Continues, List.forall₂_nil_left_iff, exists_eq_left, List.foldl_nil]

lemma continues_cons {c : Char} {s : List Char} {n m : Nat} :
    Continues (c :: s) n m ↔ ∃ d, IsHexDigit c d ∧ Continues s (n * 16 + d) m := by
  constructor
  · rintro ⟨_, hdigits, hm⟩
    cases hdigits with
    | cons hd hrest => exact ⟨_, hd, _, hrest, hm⟩
  · rintro ⟨d, hd, ds, hrest, hm⟩
    exact ⟨d :: ds, .cons hd hrest, hm⟩

/-- Going on never makes a number smaller. -/
lemma Continues.le {s : List Char} {n m : Nat} (h : Continues s n m) : n ≤ m := by
  induction s generalizing n with
  | nil => exact (continues_nil.mp h).le
  | cons c s ih =>
      obtain ⟨d, -, hrest⟩ := continues_cons.mp h
      have hle := ih hrest
      omega

lemma continues_zero_iff {s : List Char} {n : Nat} : Continues s 0 n ↔ IsHex s n := by
  simp only [Continues, IsHex, Nat.ofDigits_eq_foldr, List.foldr_reverse, Nat.cast_id,
    Nat.mul_comm, Nat.add_comm]

/-- **A row of digits is read to its end if the number that it comes to is small enough.** -/
lemma readDigits_eq_ok_iff {limit n m : Nat} {s : List Char} (hn : n < limit) :
    readDigits 16 limit n s = .ok m ↔ Continues s n m ∧ m < limit := by
  induction s generalizing n with
  | nil =>
      rw [readDigits, continues_nil, Except.ok.injEq]
      constructor
      · rintro rfl
        exact ⟨rfl, hn⟩
      · exact And.left
  | cons c s ih =>
      rw [readDigits, continues_cons]
      split
      · next hnone =>
          constructor
          · intro h
            cases h
          · rintro ⟨⟨d, hd, -⟩, -⟩
            rw [digitValue?_eq_some_iff.mpr hd] at hnone
            cases hnone
      · next d hd =>
          have hdigit (d' : Nat) : IsHexDigit c d' ↔ d = d' := by
            rw [← digitValue?_eq_some_iff, hd, Option.some.injEq]
          simp only [hdigit, exists_eq_left']
          split
          · next hlt => exact ih hlt
          · next hge =>
              constructor
              · intro h
                cases h
              · rintro ⟨hrest, hlt⟩
                exact absurd (hrest.le.trans_lt hlt) hge

/-- That a text is a number without blanks and marks: a plus sign or none, and digits. -/
def IsUnsigned (s : List Char) (n : Nat) : Prop :=
  ∃ sign digits, s = sign ++ digits ∧ sign ∈ [[], ['+']] ∧ digits ≠ [] ∧ IsHex digits n

lemma isUnsigned_iff {s : List Char} {n : Nat} :
    IsUnsigned s n ↔
      (s ≠ [] ∧ IsHex s n) ∨ ∃ digits, s = '+' :: digits ∧ digits ≠ [] ∧ IsHex digits n := by
  constructor
  · rintro ⟨sign, digits, rfl, hsign, h⟩
    simp only [List.mem_cons, List.not_mem_nil, or_false] at hsign
    rcases hsign with rfl | rfl
    · exact .inl h
    · exact .inr ⟨digits, rfl, h⟩
  · rintro (h | ⟨digits, rfl, h⟩)
    · exact ⟨[], s, rfl, by simp, h⟩
    · exact ⟨['+'], digits, rfl, by simp, h⟩

lemma IsUnsigned.mem {s : List Char} {n : Nat} (h : IsUnsigned s n) {c : Char} (hc : c ∈ s) :
    c ∈ '+' :: hexDigits := by
  rcases isUnsigned_iff.mp h with ⟨-, hdigits⟩ | ⟨digits, rfl, -, hdigits⟩
  · exact List.mem_cons_of_mem _ (hdigits.mem hc)
  · rcases List.mem_cons.mp hc with rfl | hc
    · exact List.mem_cons_self
    · exact List.mem_cons_of_mem _ (hdigits.mem hc)

lemma isUnsigned_cons_plus {s : List Char} {n : Nat} :
    IsUnsigned ('+' :: s) n ↔ s ≠ [] ∧ IsHex s n := by
  rw [isUnsigned_iff]
  constructor
  · rintro (⟨-, hdigits⟩ | ⟨_, hs, hdigits⟩)
    · -- a plus sign is no digit
      exact absurd (hdigits.mem List.mem_cons_self) (by decide)
    · obtain rfl := (List.cons.inj hs).2
      exact hdigits
  · intro hs
    exact .inr ⟨s, rfl, hs⟩

lemma isUnsigned_iff_isHex {s : List Char} {n : Nat} (hplus : ∀ rest, s ≠ '+' :: rest) :
    IsUnsigned s n ↔ s ≠ [] ∧ IsHex s n := by
  rw [isUnsigned_iff]
  constructor
  · rintro (hs | ⟨digits, hs, -⟩)
    · exact hs
    · exact absurd hs (hplus digits)
  · exact .inl

/-- **What is read is a sign or none, and digits of a number that is small enough.** -/
theorem readUnsigned_eq_ok_iff {limit n : Nat} (hlimit : 0 < limit) {s : List Char} :
    readUnsigned 16 limit s = .ok n ↔ IsUnsigned s n ∧ n < limit := by
  unfold readUnsigned
  split
  · simp [isUnsigned_iff_isHex]
  · simp [isUnsigned_cons_plus]
  · next rest hne =>
      have hrest : rest ≠ [] := fun hnil => hne (hnil ▸ rfl)
      simp [readDigits_eq_ok_iff hlimit, continues_zero_iff, isUnsigned_cons_plus, hrest]
  · next hempty _ hplus =>
      have hne : s ≠ [] := hempty
      simp [readDigits_eq_ok_iff hlimit, continues_zero_iff, isUnsigned_iff_isHex hplus, hne]

end Text

end ChargeController
