import ChargeController.Calendar.Written
import ChargeController.Proofs.Text.Digits
import Mathlib.Tactic.SplitIfs

/-!
# Written dates read back

The text of a moment is read field by field.  Each field is a row of digits that the next mark ends,
so its reader takes exactly what was written, and the moment that the text names is the one it was
written for.

* `readNumber_append`, `readField_padLeft`, `readYear_yearText` — a field reads back.
* `readFraction_fractionText` — so does the fraction of a second, in each of its widths.
* **`DateTime.ofText?_text`** — the text of a moment reads back to it.
-/

namespace ChargeController.DateTime

open Numeral

/-! ## Fields -/

lemma isBlank_of_isDigit {c : Char} (hc : c.isDigit = true) : Text.isBlank c = false := by
  have hrange : 48 ≤ c.toNat ∧ c.toNat ≤ 57 := by
    simpa [Char.isDigit, UInt32.le_iff_toNat_le] using hc
  simp [Text.isBlank, CodeRanges.has, Text.blankRanges]
  omega

lemma skipBlanks_digits {s : List Char} (hne : s ≠ []) (hs : IsDigits s) (rest : List Char) :
    Text.skipBlanks (s ++ rest) = s ++ rest := by
  cases s with
  | nil => exact absurd rfl hne
  | cons c s =>
      have hc : Text.isBlank c = false := isBlank_of_isDigit (hs c (by simp))
      simp [Text.skipBlanks, hc]

lemma leadingDigits_append {width : Nat} {s rest : List Char} (hs : IsDigits s)
    (hlength : s.length ≤ width) (hrest : EndsNumber rest) :
    leadingDigits width (s ++ rest) = (s, rest) := by
  have hend : EndsNumber (rest.take (width - s.length)) := by
    intro c hc
    refine hrest c ?_
    rw [List.head?_take] at hc
    split at hc <;> simp_all
  have htake : ((s ++ rest).take width).takeWhile Char.isDigit = s := by
    rw [List.take_append, List.take_of_length_le hlength]
    exact takeWhile_isDigit hs hend
  simp only [leadingDigits, htake]
  simp

/-- The digits of a number are read up to what ends them. -/
lemma readNumber_append {width : Nat} {s rest : List Char} (hne : s ≠ []) (hs : IsDigits s)
    (hlength : s.length ≤ width) (hrest : EndsNumber rest) (hlimit : valueOf s < fieldLimit) :
    readNumber width (s ++ rest) = some (valueOf s, rest) := by
  cases s with
  | nil => exact absurd rfl hne
  | cons c s =>
      simp only [readNumber]
      rw [leadingDigits_append hs hlength hrest]
      simp [hlimit]

lemma readNumber_padLeft {width least n : Nat} {rest : List Char}
    (hlength : (Text.padLeft least (digitsOf n)).length ≤ width) (hlimit : n < fieldLimit)
    (hrest : EndsNumber rest) :
    readNumber width (Text.padLeft least (digitsOf n) ++ rest) = some (n, rest) := by
  have hvalue := Text.valueOf_padLeft least n
  rw [readNumber_append (Text.padLeft_ne_nil _ _) (Text.isDigits_padLeft _ _) hlength hrest
    (by omega), hvalue]

lemma lt_fieldLimit {n : Nat} (h : n < 1000000) : n < fieldLimit := by
  simp only [fieldLimit, UInt64.size]
  omega

/-- A field of two digits reads back. -/
lemma readField_padLeft {n : Nat} {rest : List Char} (hn : n < 100) (hrest : EndsNumber rest) :
    readField 2 (Text.padLeft 2 (digitsOf n) ++ rest) = some (n, rest) := by
  have hlength : (Text.padLeft 2 (digitsOf n)).length = 2 := Text.length_padLeft (by omega) hn
  rw [readField, skipBlanks_digits (Text.padLeft_ne_nil _ _) (Text.isDigits_padLeft _ _)]
  exact readNumber_padLeft (by omega) (lt_fieldLimit (by omega)) hrest

lemma skipBlanks_cons {c : Char} (hc : Text.isBlank c = false) (s : List Char) :
    Text.skipBlanks (c :: s) = c :: s := by
  simp [Text.skipBlanks, hc]

lemma readMark_cons {mark : Char} (hmark : Text.isBlank mark = false) (rest : List Char) :
    readMark mark (mark :: rest) = some rest := by
  simp [readMark, skipBlanks_cons hmark]

/-! ## The year -/

/-- Without a sign a year is its leading digits. -/
lemma readYear_digits {s rest : List Char} (hne : s ≠ []) (hs : IsDigits s) :
    readYear (s ++ rest) = (readNumber 4 (s ++ rest)).map fun (n, rest) => ((n : Int), rest) := by
  rw [readYear, skipBlanks_digits hne hs]
  cases s with
  | nil => exact absurd rfl hne
  | cons c s =>
      have hc : c.isDigit = true := hs c (by simp)
      rw [List.cons_append]
      split
      · next h =>
        cases h
        exact absurd hc (by decide)
      · next h =>
        cases h
        exact absurd hc (by decide)
      · rfl

lemma readYear_minus (s : List Char) :
    readYear ('-' :: s) = (readNumber s.length s).map fun (n, rest) => (-(n : Int), rest) := by
  rw [readYear, skipBlanks_cons (by decide)]
  rfl

lemma readYear_plus (s : List Char) :
    readYear ('+' :: s) = (readNumber s.length s).map fun (n, rest) => ((n : Int), rest) := by
  rw [readYear, skipBlanks_cons (by decide)]
  rfl

/-- A year reads back, with its sign or without one. -/
lemma readYear_yearText {year : Int} (hyear : year.natAbs < 1000000) {rest : List Char}
    (hrest : EndsNumber rest) :
    readYear ((yearText year).toList ++ rest) = some (year, rest) := by
  have hsigned : readNumber (Text.padLeft 4 (digitsOf year.natAbs) ++ rest).length
      (Text.padLeft 4 (digitsOf year.natAbs) ++ rest) = some (year.natAbs, rest) :=
    readNumber_padLeft (by simp) (lt_fieldLimit hyear) hrest
  simp only [yearText]
  split_ifs with hbare hnegative
  · have hlength : (Text.padLeft 4 (digitsOf year.toNat)).length = 4 :=
      Text.length_padLeft (by omega) (by omega : year.toNat < 10000)
    have hvalue : (year.toNat : Int) = year := by omega
    rw [Text.toList_padded, readYear_digits (Text.padLeft_ne_nil _ _) (Text.isDigits_padLeft _ _),
      readNumber_padLeft (by omega) (lt_fieldLimit (by omega)) hrest]
    simp only [Option.map_some, hvalue]
  · have hvalue : -(year.natAbs : Int) = year := by omega
    rw [String.toList_append, Text.toList_padded]
    change readYear ('-' :: (Text.padLeft 4 (digitsOf year.natAbs) ++ rest)) = _
    rw [readYear_minus, hsigned]
    simp only [Option.map_some, hvalue]
  · have hvalue : (year.natAbs : Int) = year := by omega
    rw [String.toList_append, Text.toList_padded]
    change readYear ('+' :: (Text.padLeft 4 (digitsOf year.natAbs) ++ rest)) = _
    rw [readYear_plus, hsigned]
    simp only [Option.map_some, hvalue]

/-! ## The fraction of a second -/

/-- A fraction of up to nine digits, each of them counted. -/
lemma readFraction_padLeft {width n : Nat} (hwidth : 0 < width) (hnine : width ≤ 9)
    (hn : n < Nat.pow 10 width) :
    readFraction ('.' :: Text.padLeft width (digitsOf n)) =
      some (n * Nat.pow 10 (9 - width), []) := by
  have hlength : (Text.padLeft width (digitsOf n)).length = width :=
    Text.length_padLeft hwidth hn
  have hdigits : leadingDigits 9 (Text.padLeft width (digitsOf n)) =
      (Text.padLeft width (digitsOf n), []) := by
    simpa using leadingDigits_append (Text.isDigits_padLeft width n) (by omega) endsNumber_nil
  have hvalue := Text.valueOf_padLeft width n
  simp only [readFraction, hdigits]
  cases hs : Text.padLeft width (digitsOf n) with
  | nil => exact absurd hs (Text.padLeft_ne_nil _ _)
  | cons c s =>
      rw [hs] at hvalue hlength
      simp [hvalue, hlength]

/-- The fraction of a second reads back, in whichever width it is written. -/
lemma readFraction_fractionText {nanosecond : Nat} (h : nanosecond < 1000000000) :
    readFraction (fractionText nanosecond).toList = some (nanosecond, []) := by
  simp only [fractionText]
  split_ifs with hnone hthree hsix
  · simp [readFraction, hnone]
  · have hread := readFraction_padLeft (by omega : 0 < 3) (by omega)
      (by omega : nanosecond / 1000000 < 1000)
    have hvalue : nanosecond / 1000000 * Nat.pow 10 (9 - 3) = nanosecond := by
      simp only [Nat.reduceSub, Nat.pow_eq, Nat.reducePow]
      omega
    simpa [hvalue] using hread
  · have hread := readFraction_padLeft (by omega : 0 < 6) (by omega)
      (by omega : nanosecond / 1000 < 1000000)
    have hvalue : nanosecond / 1000 * Nat.pow 10 (9 - 6) = nanosecond := by
      simp only [Nat.reduceSub, Nat.pow_eq, Nat.reducePow]
      omega
    simpa [hvalue] using hread
  · have hread := readFraction_padLeft (by omega : 0 < 9) (by omega)
      (by omega : nanosecond < 1000000000)
    simpa using hread

/-! ## The whole moment -/

lemma endsNumber_fractionText (nanosecond : Nat) :
    EndsNumber (fractionText nanosecond).toList := by
  simp only [fractionText]
  split_ifs <;> simp [EndsNumber]

lemma daysInMonth_le (year : Int) (month : Nat) : daysInMonth year month ≤ 31 := by
  fun_cases daysInMonth year month <;> omega

lemma month_le {year : Int} {month : Nat} (h : 1 ≤ daysInMonth year month) : month ≤ 12 := by
  revert h
  fun_cases daysInMonth year month <;> omega

/-- The characters of a written moment, field by field. -/
lemma toList_text (t : DateTime) :
    t.text.toList = (yearText t.year).toList ++ '-' :: (Text.padLeft 2 (digitsOf t.month) ++
      '-' :: (Text.padLeft 2 (digitsOf t.day) ++ 'T' :: (Text.padLeft 2 (digitsOf t.hour) ++
        ':' :: (Text.padLeft 2 (digitsOf t.minute) ++ ':' :: (Text.padLeft 2 (digitsOf t.second) ++
          (fractionText t.nanosecond).toList))))) := by
  simp [text]

/-- The fields of a written moment are its own. -/
lemma readFields_text (t : DateTime) : readFields t.text.toList = some t.toDateTimeFields := by
  obtain ⟨hmin, hmax, hfirst, hlast, hhour, hminute, hsecond, hnanosecond⟩ := t.valid
  simp only [DateTimeFields.minYear, DateTimeFields.maxYear] at hmin hmax
  have hmonth : t.month ≤ 12 := month_le (Nat.le_trans hfirst hlast)
  have hday : t.day ≤ 31 := Nat.le_trans hlast (daysInMonth_le _ _)
  have hdash (s : List Char) : EndsNumber ('-' :: s) := endsNumber_cons (by decide) s
  have hcolon (s : List Char) : EndsNumber (':' :: s) := endsNumber_cons (by decide) s
  have hletter (s : List Char) : EndsNumber ('T' :: s) := endsNumber_cons (by decide) s
  have hyear (s : List Char) := readYear_yearText (by omega : t.year.natAbs < 1000000) (hdash s)
  have hmonth (s : List Char) := readField_padLeft (by omega : t.month < 100) (hdash s)
  have hday (s : List Char) := readField_padLeft (by omega : t.day < 100) (hletter s)
  have hhour (s : List Char) := readField_padLeft (by omega : t.hour < 100) (hcolon s)
  have hminute (s : List Char) := readField_padLeft (by omega : t.minute < 100) (hcolon s)
  have hsecond := readField_padLeft (by omega : t.second < 100)
    (endsNumber_fractionText t.nanosecond)
  have hmark {mark : Char} (h : Text.isBlank mark = false) := readMark_cons h
  rw [toList_text]
  simp only [readFields, Option.bind_eq_bind, Option.bind_some, hyear, hmonth, hday, hhour,
    hminute, hsecond, readFraction_fractionText hnanosecond,
    hmark (by decide : Text.isBlank '-' = false), hmark (by decide : Text.isBlank ':' = false),
    hmark (by decide : Text.isBlank 'T' = false)]
  rfl

/-- **The text of a moment reads back to it.** -/
theorem ofText?_text (t : DateTime) : ofText? t.text = some t := by
  rw [ofText?, readFields_text]
  exact ofFields?_fields t

end ChargeController.DateTime
