import ChargeController.Text.Padded
import Mathlib.Tactic.Lemma

/-!
# Rows of digits

The digits of a number are its own: none of them but a lone zero leads with a zero, and the number
is what they stand for.  Zeros put before them change their length and nothing else, so a number
that fits a width is written with exactly that many digits.

* **`Numeral.valueOf_digitsOf`** — the digits of a number stand for it.
* **`Text.valueOf_padLeft`**, **`Text.length_padLeft`** — a number of a fixed width.
-/

namespace ChargeController

namespace Numeral

/-- A row of decimal digits. -/
def IsDigits (s : List Char) : Prop :=
  ∀ c ∈ s, c.isDigit = true

lemma isDigits_digitsOf (n : Nat) : IsDigits (digitsOf n) := by
  intro c hc
  exact Nat.isDigit_of_mem_toDigits (by omega) (by omega) hc

lemma isDigits_append {s t : List Char} (hs : IsDigits s) (ht : IsDigits t) :
    IsDigits (s ++ t) := by
  intro c hc
  rcases List.mem_append.mp hc with h | h
  · exact hs c h
  · exact ht c h

lemma isDigits_zeros (k : Nat) : IsDigits (List.replicate k '0') := by
  intro c hc
  rw [List.eq_of_mem_replicate hc]
  decide

lemma digitsOf_ne_nil (n : Nat) : digitsOf n ≠ [] :=
  Nat.toDigits_ne_nil

/-- **The digits of a number stand for it.** -/
lemma valueOf_digitsOf (n : Nat) : valueOf (digitsOf n) = n := by
  have h : Nat.ofDigitChars 10 (digitsOf n) 0 = n := Nat.ofDigitChars_ten_toDigits
  rw [Nat.ofDigitChars_eq_foldl] at h
  simpa [valueOf, Nat.mul_comm] using h

lemma valueOf_zeros (k : Nat) (s : List Char) :
    valueOf (List.replicate k '0' ++ s) = valueOf s := by
  induction k with
  | zero => simp
  | succ k ih => simpa [List.replicate_succ, valueOf] using ih

lemma digitsOf_of_ten_le {n : Nat} (h : 10 ≤ n) :
    digitsOf n = digitsOf (n / 10) ++ [(n % 10).digitChar] :=
  Nat.toDigits_of_base_le (by omega) h

/-- Only zero is written with a zero in front. -/
lemma head_digitsOf {n : Nat} (hn : n ≠ 0) : (digitsOf n).head? ≠ some '0' := by
  induction n using Nat.strongRecOn with
  | _ n ih =>
    by_cases h : 10 ≤ n
    · have hrest := ih (n / 10) (by omega) (by omega)
      rw [digitsOf_of_ten_le h]
      cases hd : digitsOf (n / 10) with
      | nil => exact absurd hd (digitsOf_ne_nil _)
      | cons c rest => simpa [hd] using hrest
    · have hdigit : digitsOf n = [n.digitChar] := Nat.toDigits_of_lt_base (by omega)
      simp [hdigit, hn]

/-! ## Where the digits end -/

/-- A text that does not go on with a digit. -/
def EndsNumber (rest : List Char) : Prop :=
  ∀ c ∈ rest.head?, c.isDigit = false

lemma endsNumber_nil : EndsNumber [] := by
  simp [EndsNumber]

lemma endsNumber_cons {c : Char} (hc : c.isDigit = false) (rest : List Char) :
    EndsNumber (c :: rest) := by
  simp [EndsNumber, hc]

lemma takeWhile_isDigit {s rest : List Char} (hs : IsDigits s) (hrest : EndsNumber rest) :
    (s ++ rest).takeWhile Char.isDigit = s := by
  rw [List.takeWhile_append_of_pos hs]
  cases rest with
  | nil => simp
  | cons c rest => simp [hrest c rfl]

lemma dropWhile_isDigit {s rest : List Char} (hs : IsDigits s) (hrest : EndsNumber rest) :
    (s ++ rest).dropWhile Char.isDigit = rest := by
  rw [List.dropWhile_append_of_pos hs]
  cases rest with
  | nil => rfl
  | cons c rest => simp [hrest c rfl]

end Numeral

namespace Text

open Numeral

lemma isDigits_padLeft (width n : Nat) : IsDigits (padLeft width (digitsOf n)) :=
  isDigits_append (isDigits_zeros _) (isDigits_digitsOf n)

/-- **Zeros before the digits of a number do not change what they stand for.** -/
lemma valueOf_padLeft (width n : Nat) : valueOf (padLeft width (digitsOf n)) = n := by
  rw [padLeft, valueOf_zeros, valueOf_digitsOf]

lemma padLeft_ne_nil (width n : Nat) : padLeft width (digitsOf n) ≠ [] := by
  simp [padLeft, digitsOf_ne_nil]

/-- **A number that fits a width is written with that many digits.** -/
lemma length_padLeft {width n : Nat} (hwidth : 0 < width) (h : n < Nat.pow 10 width) :
    (padLeft width (digitsOf n)).length = width := by
  have hlength : (digitsOf n).length ≤ width :=
    (Nat.length_toDigits_le_iff (by omega) hwidth).mpr h
  simp only [padLeft, List.length_append, List.length_replicate]
  omega

/-- A number in any base with one more digit ends in its last one. -/
lemma padLeft_toDigits_succ {base : Nat} (hbase : 1 < base) (width n : Nat) :
    padLeft (width + 2) (Nat.toDigits base n) =
      padLeft (width + 1) (Nat.toDigits base (n / base)) ++ [(n % base).digitChar] := by
  by_cases h : base ≤ n
  · rw [Nat.toDigits_of_base_le hbase h]
    simp [padLeft]
  · have hquotient : n / base = 0 := Nat.div_eq_of_lt (by omega)
    have hrest : n % base = n := Nat.mod_eq_of_lt (by omega)
    rw [Nat.toDigits_of_lt_base (by omega), hquotient, hrest, Nat.toDigits_zero]
    simp [padLeft, List.replicate_succ']

@[simp] lemma toList_padded (width n : Nat) :
    (padded width n).toList = padLeft width (digitsOf n) :=
  String.toList_ofList

end Text

end ChargeController
