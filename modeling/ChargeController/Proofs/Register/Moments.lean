import ChargeController.Register.Clock
import Mathlib.Tactic.IntervalCases
import Mathlib.Tactic.Lemma

/-!
# Moments in the clock registers

The clock registers keep a moment to the second and a year as its distance from 2000, in a byte.
Six bytes are therefore the form of every moment of the years 2000 to 2255 and of no other, and
whatever six bytes a device shows are either the form of one moment or name a day or a time of day
that there is not.

* `IsDay` — the days of the calendar, month by month.
* `NamesMoment` — bytes that name a moment.
* **`clock_round_trips`** — which moments are written and which bytes are read, and that writing
  and reading undo each other.
-/

namespace ChargeController

/-! ## The calendar -/

/-- The days of the calendar.  A year has a twenty-ninth of February if four divides it, but of the
full centuries only those that four hundred divides. -/
def IsDay (year : Int) (month day : Nat) : Prop :=
  1 ≤ day ∧
    ((month ∈ [1, 3, 5, 7, 8, 10, 12] ∧ day ≤ 31) ∨
      (month ∈ [4, 6, 9, 11] ∧ day ≤ 30) ∨
      (month = 2 ∧ day ≤ 28) ∨
      (month = 2 ∧ day = 29 ∧ 4 ∣ year ∧ (100 ∣ year → 400 ∣ year)))

lemma isLeapYear_iff {year : Int} :
    isLeapYear year = true ↔ 4 ∣ year ∧ (100 ∣ year → 400 ∣ year) := by
  simp only [isLeapYear, Bool.and_eq_true, Bool.or_eq_true, beq_iff_eq, bne_iff_ne]
  omega

lemma isDay_iff {year : Int} {month day : Nat} :
    IsDay year month day ↔ 1 ≤ day ∧ day ≤ daysInMonth year month := by
  by_cases hmonth : month ≤ 12
  · -- The months one by one; only February looks at the year.
    by_cases hleap : isLeapYear year
    · have hyear := isLeapYear_iff.mp hleap
      interval_cases month <;> simp [IsDay, daysInMonth, hleap, hyear] <;> omega
    · have hyear := mt isLeapYear_iff.mpr hleap
      interval_cases month <;> simp [IsDay, daysInMonth, hleap] <;> omega
  · have hnone : daysInMonth year month = 0 := by
      simp only [daysInMonth]
      split <;> omega
    simp only [IsDay, hnone, List.mem_cons, List.not_mem_nil, or_false]
    omega

lemma IsDay.le {year : Int} {month day : Nat} (h : IsDay year month day) :
    month ≤ 12 ∧ day ≤ 31 := by
  simp only [IsDay, List.mem_cons, List.not_mem_nil, or_false] at h
  omega

namespace DateTime

/-- The same moment without the part below a second; a leap second is such a part. -/
def wholeSecond (t : DateTime) : DateTime where
  toDateTimeFields := { t.toDateTimeFields with second := min t.second 59, nanosecond := 0 }
  valid := by
    obtain ⟨hmin, hmax, hday, hdays, hhour, hminute, -, -⟩ := t.valid
    exact ⟨hmin, hmax, hday, hdays, hhour, hminute, by simp, by simp⟩

end DateTime

namespace Register

/-! ## Writing -/

/-- The six bytes of a moment, whatever its year. -/
def clockRow (t : DateTime) : Bytes :=
  [UInt8.ofNat t.minute, UInt8.ofNat (min t.second 59), UInt8.ofNat t.day, UInt8.ofNat t.hour,
    UInt8.ofNat (t.year - 2000).toNat, UInt8.ofNat t.month]

lemma clockBytes_eq {t : DateTime} (h : 2000 ≤ t.year ∧ t.year ≤ 2255) :
    clockBytes t = .ok (clockRow t) := by
  have hyears : 0 ≤ t.year - clockBase ∧ t.year - clockBase < 256 := by
    simp only [clockBase]
    omega
  exact if_pos hyears

lemma clockBytes_eq_error {t : DateTime} (h : ¬ (2000 ≤ t.year ∧ t.year ≤ 2255)) :
    clockBytes t = .error (.yearOutOfRange t.year) := by
  have hyears : ¬ (0 ≤ t.year - clockBase ∧ t.year - clockBase < 256) := by
    simp only [clockBase]
    omega
  exact if_neg hyears

/-- A moment has clock bytes exactly if its year is near enough. -/
lemma exists_clockBytes_iff {t : DateTime} :
    (∃ row, clockBytes t = .ok row) ↔ 2000 ≤ t.year ∧ t.year ≤ 2255 := by
  constructor
  · rintro ⟨row, hrow⟩
    by_contra hyear
    rw [clockBytes_eq_error hyear] at hrow
    cases hrow
  · exact fun hyear => ⟨_, clockBytes_eq hyear⟩

/-! ## Reading -/

/-- The bytes begin with minute, second, day, hour, years since 2000 and month of a day and a time
of day that there are. -/
def NamesMoment (b : Bytes) : Prop :=
  ∃ minute second day hour year month rest,
    b = minute :: second :: day :: hour :: year :: month :: rest ∧
      IsDay (2000 + year.toNat) month.toNat day.toNat ∧
      hour.toNat < 24 ∧ minute.toNat < 60 ∧ second.toNat < 60

lemma readClock_short {b : Bytes} (h : b.length < 6) :
    readClock b = .error (.tooShort "clock" 6 b.length) := by
  match b with
  | [] | [_] | [_, _] | [_, _, _] | [_, _, _, _] | [_, _, _, _, _] => rfl
  | _ :: _ :: _ :: _ :: _ :: _ :: _ => simp at h; omega

/-- What six bytes say, whether or not there is such a moment. -/
def clockFields (minute second day hour year month : UInt8) : DateTimeFields where
  year := 2000 + year.toNat
  month := month.toNat
  day := day.toNat
  hour := hour.toNat
  minute := minute.toNat
  second := second.toNat
  nanosecond := 0

lemma clockFields_valid {minute second day hour year month : UInt8} :
    (clockFields minute second day hour year month).Valid ↔
      IsDay (2000 + year.toNat) month.toNat day.toNat ∧
        hour.toNat < 24 ∧ minute.toNat < 60 ∧ second.toNat ≤ 60 := by
  have hyear := year.toNat_lt
  simp only [DateTimeFields.Valid, DateTimeFields.minYear, DateTimeFields.maxYear, clockFields,
    isDay_iff]
  omega

lemma readClock_of_valid {minute second day hour year month : UInt8} (rest : Bytes)
    (hvalid : (clockFields minute second day hour year month).Valid) (hsecond : second.toNat < 60) :
    readClock (minute :: second :: day :: hour :: year :: month :: rest) =
      .ok ⟨clockFields minute second day hour year month, hvalid⟩ := by
  rw [clockFields] at hvalid
  simp only [readClock, clockBase, Nat.cast_add, Nat.cast_ofNat, DateTime.ofFields?]
  rw [if_pos hsecond, dif_pos hvalid]
  rfl

lemma readClock_of_not_valid {minute second day hour year month : UInt8} (rest : Bytes)
    (hnone : ¬ ((clockFields minute second day hour year month).Valid ∧ second.toNat < 60)) :
    readClock (minute :: second :: day :: hour :: year :: month :: rest) =
      .error (.noSuchMoment (2000 + year.toNat) month.toNat day.toNat hour.toNat minute.toNat
        second.toNat) := by
  rw [clockFields] at hnone
  simp only [readClock, clockBase, Nat.cast_add, Nat.cast_ofNat, DateTime.ofFields?]
  by_cases hsecond : second.toNat < 60
  · rw [if_pos hsecond, dif_neg fun hvalid => hnone ⟨hvalid, hsecond⟩]
  · rw [if_neg hsecond]

lemma namesMoment_cons {minute second day hour year month : UInt8} {rest : Bytes} :
    NamesMoment (minute :: second :: day :: hour :: year :: month :: rest) ↔
      (clockFields minute second day hour year month).Valid ∧ second.toNat < 60 := by
  rw [clockFields_valid]
  constructor
  · rintro ⟨minute', second', day', hour', year', month', rest', heq, hday, hhour, hminute, hsecond⟩
    cases heq
    exact ⟨⟨hday, hhour, hminute, hsecond.le⟩, hsecond⟩
  · rintro ⟨⟨hday, hhour, hminute, -⟩, hsecond⟩
    exact ⟨minute, second, day, hour, year, month, rest, rfl, hday, hhour, hminute, hsecond⟩

lemma not_namesMoment_of_short {b : Bytes} (h : b.length < 6) : ¬ NamesMoment b := by
  rintro ⟨_, _, _, _, _, _, rest, rfl, -⟩
  simp only [List.length_cons] at h
  omega

lemma readClock_named {b : Bytes} (h : NamesMoment b) : ∃ moment, readClock b = .ok moment := by
  obtain ⟨_, _, _, _, _, _, rest, rfl, -⟩ := id h
  obtain ⟨hvalid, hsecond⟩ := namesMoment_cons.mp h
  exact ⟨_, readClock_of_valid rest hvalid hsecond⟩

/-- Six bytes that name no moment are refused with all that they say. -/
lemma readClock_unnamed {b : Bytes} (hlong : 6 ≤ b.length) (hnone : ¬ NamesMoment b) :
    ∃ year month day hour minute second,
      readClock b = .error (.noSuchMoment year month day hour minute second) := by
  match b with
  | minute :: second :: day :: hour :: year :: month :: rest =>
      exact ⟨_, _, _, _, _, _, readClock_of_not_valid rest (mt namesMoment_cons.mpr hnone)⟩
  | [] | [_] | [_, _] | [_, _, _] | [_, _, _, _] | [_, _, _, _, _] =>
      simp only [List.length_cons, List.length_nil] at hlong
      omega

/-- Bytes are too few, or name a moment, or name none. -/
lemma readClock_cases (b : Bytes) :
    (b.length < 6 ∧ ¬ NamesMoment b ∧ readClock b = .error (.tooShort "clock" 6 b.length)) ∨
      (6 ≤ b.length ∧ NamesMoment b ∧ ∃ moment, readClock b = .ok moment) ∨
      (6 ≤ b.length ∧ ¬ NamesMoment b ∧ ∃ year month day hour minute second,
        readClock b = .error (.noSuchMoment year month day hour minute second)) := by
  by_cases hshort : b.length < 6
  · exact .inl ⟨hshort, not_namesMoment_of_short hshort, readClock_short hshort⟩
  · have hlong : 6 ≤ b.length := by omega
    by_cases hnamed : NamesMoment b
    · exact .inr (.inl ⟨hlong, hnamed, readClock_named hnamed⟩)
    · exact .inr (.inr ⟨hlong, hnamed, readClock_unnamed hlong hnamed⟩)

/-! ## There and back -/

lemma clockFields_row {t : DateTime} (h : 2000 ≤ t.year ∧ t.year ≤ 2255) :
    clockFields (UInt8.ofNat t.minute) (UInt8.ofNat (min t.second 59)) (UInt8.ofNat t.day)
        (UInt8.ofNat t.hour) (UInt8.ofNat (t.year - 2000).toNat) (UInt8.ofNat t.month) =
      t.wholeSecond.toDateTimeFields := by
  obtain ⟨-, -, hday, hdays, hhour, hminute, -, -⟩ := t.valid
  obtain ⟨hmonth, hdayle⟩ := IsDay.le (isDay_iff.mpr ⟨hday, hdays⟩)
  have hbyte (n : Nat) (hn : n < 256) : (UInt8.ofNat n).toNat = n :=
    UInt8.toNat_ofNat_of_lt' hn
  have hyear : (2000 : Int) + ((t.year - 2000).toNat : Nat) = t.year := by omega
  simp only [clockFields, DateTime.wholeSecond]
  rw [hbyte _ (by omega), hbyte _ (by omega), hbyte _ (by omega), hbyte _ (by omega),
    hbyte _ (by omega), hbyte _ (by omega), hyear]

/-- **A moment that was written is read back to the second.** -/
lemma readClock_clockRow {t : DateTime} (h : 2000 ≤ t.year ∧ t.year ≤ 2255) :
    readClock (clockRow t) = .ok t.wholeSecond := by
  have hfields := clockFields_row h
  have hsecond : (UInt8.ofNat (min t.second 59)).toNat < 60 := by
    rw [UInt8.toNat_ofNat_of_lt' (show min t.second 59 < 256 by omega)]
    omega
  rw [clockRow, readClock_of_valid [] (hfields ▸ t.wholeSecond.valid) hsecond]
  exact congrArg Except.ok (DateTime.eq_of_fields hfields)

/-- **A moment that was read is written with the bytes that it was read from.** -/
lemma clockBytes_of_readClock {b : Bytes} {t : DateTime} (h : readClock b = .ok t) :
    clockBytes t = .ok (b.take 6) := by
  match b with
  | minute :: second :: day :: hour :: year :: month :: rest =>
      by_cases hnamed : (clockFields minute second day hour year month).Valid ∧ second.toNat < 60
      · rw [readClock_of_valid rest hnamed.1 hnamed.2] at h
        obtain rfl := Except.ok.inj h
        have hyear := year.toNat_lt
        have hsecond : min second.toNat 59 = second.toNat := by omega
        rw [clockBytes_eq (by simp only [clockFields]; omega)]
        simp [clockRow, clockFields, hsecond]
      · rw [readClock_of_not_valid rest hnamed] at h
        cases h
  | [] | [_] | [_, _] | [_, _, _] | [_, _, _, _] | [_, _, _, _, _] => cases h

/-- **Reading and writing the clock undo each other.**  A moment has clock bytes exactly if its year
is one of 2000 to 2255; they are six, and are read as the moment to the second.  Fewer than six
bytes are too short, bytes that name a moment are read, and all others are refused as naming none;
and what was read is written with the very bytes that it was read from. -/
theorem clock_round_trips (t : DateTime) (b : Bytes) :
    ((∃ row, clockBytes t = .ok row) ↔ 2000 ≤ t.year ∧ t.year ≤ 2255) ∧
      (∀ row, clockBytes t = .ok row → row.length = 6 ∧ readClock row = .ok t.wholeSecond) ∧
      ((∃ what expected actual, readClock b = .error (.tooShort what expected actual)) ↔
        b.length < 6) ∧
      ((∃ moment, readClock b = .ok moment) ↔ NamesMoment b) ∧
      ((∃ year month day hour minute second,
          readClock b = .error (.noSuchMoment year month day hour minute second)) ↔
        6 ≤ b.length ∧ ¬ NamesMoment b) ∧
      ∀ moment, readClock b = .ok moment → clockBytes moment = .ok (b.take 6) := by
  have hrow (row : Bytes) (h : clockBytes t = .ok row) :
      row.length = 6 ∧ readClock row = .ok t.wholeSecond := by
    have hyear := exists_clockBytes_iff.mp ⟨row, h⟩
    rw [clockBytes_eq hyear] at h
    obtain rfl := Except.ok.inj h
    exact ⟨rfl, readClock_clockRow hyear⟩
  refine ⟨exists_clockBytes_iff, hrow, ?_, ?_, ?_, fun moment => clockBytes_of_readClock⟩
  -- The three outcomes of reading exclude each other, and so do the three kinds of bytes.
  all_goals
    rcases readClock_cases b with ⟨hlength, hnamed, hread⟩ | ⟨hlength, hnamed, moment, hread⟩ |
        ⟨hlength, hnamed, year, month, day, hour, minute, second, hread⟩ <;>
      simp [hread, hnamed, hlength, Nat.not_lt.mpr, Nat.not_le.mpr]

/-- A leap second at the end of the twenty-ninth of February is kept as the second before it, and no
twenty-ninth of February is read in 2100. -/
theorem leap_day_kept :
    let late : DateTime := ⟨⟨2024, 2, 29, 23, 59, 60, 500000000⟩, by decide⟩
    clockBytes late = .ok [59, 59, 29, 23, 24, 2] ∧
      readClock [59, 59, 29, 23, 24, 2] = .ok late.wholeSecond ∧
      ∃ year month day hour minute second,
        readClock [0, 0, 29, 12, 100, 2] =
          .error (.noSuchMoment year month day hour minute second) := by
  intro late
  have hbytes : clockBytes late = .ok [59, 59, 29, 23, 24, 2] := rfl
  obtain ⟨-, hrow, -, hnamed, hrefused, -⟩ := clock_round_trips late [0, 0, 29, 12, 100, 2]
  have hnone : ¬ NamesMoment [0, 0, 29, 12, 100, 2] := by
    rw [← hnamed]
    rintro ⟨moment, hread⟩
    cases hread
  exact ⟨hbytes, (hrow _ hbytes).2, hrefused.mpr ⟨by decide, hnone⟩⟩

end Register

end ChargeController
