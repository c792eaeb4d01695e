import ChargeController.Json.Fields
import ChargeController.Json.Token
import ChargeController.Proofs.Binary.Rounding
import ChargeController.Proofs.Text.Digits

/-!
# Numerals read back

A numeral is well formed when its rows of digits are rows of digits, none of them empty, and the
whole digits do not lead with a zero that is not alone.  Whatever is written as a number is well
formed, integers and floats of every layout alike, and a well-formed numeral reads back to its own
parts.  What an integer is read as is the integer; what a float is read as is a matter of rounding
and no concern of the numerals.

* `Numeral.WellFormed` — the numerals that a reader accepts.
* **`Numeral.ofChars?_chars`** — a well-formed numeral reads back.
* **`Layout.wellFormed_numeral`** — every written magnitude is well formed.
* **`Json.natural?_ofNat`**, **`Json.integer?_ofInt`** — an integer is read as itself.
-/

namespace ChargeController

namespace Numeral

/-- A numeral as a reader accepts it. -/
structure WellFormed (n : Numeral) : Prop where
  whole_ne_nil : n.whole ≠ []
  whole_digits : IsDigits n.whole
  /-- No zero leads, unless it stands alone. -/
  lead : n.whole.head? = some '0' → n.whole = ['0']
  fraction : ∀ digits ∈ n.fraction, digits ≠ [] ∧ IsDigits digits
  exponent : ∀ e ∈ n.exponent, e.2 ≠ [] ∧ IsDigits e.2

/-! ## Reading the parts -/

/-- The characters behind the whole digits and the fraction. -/
def exponentChars : Option (Bool × List Char) → List Char
  | some (negative, digits) => 'e' :: (if negative then '-' else '+') :: digits
  | none => []

/-- The characters behind the whole digits. -/
def tailChars (fraction : Option (List Char)) (exponent : Option (Bool × List Char)) :
    List Char :=
  match fraction with
  | some digits => '.' :: (digits ++ exponentChars exponent)
  | none => exponentChars exponent

/-- The characters of a numeral without its sign. -/
def magnitudeChars (n : Numeral) : List Char :=
  n.whole ++ tailChars n.fraction n.exponent

lemma chars_eq (n : Numeral) :
    n.chars = if n.negative then '-' :: n.magnitudeChars else n.magnitudeChars := by
  obtain ⟨negative, whole, fraction, exponent⟩ := n
  cases negative <;> cases fraction <;> cases exponent <;>
    simp [chars, magnitudeChars, tailChars, exponentChars]

lemma splitDigits_append {s rest : List Char} (hs : IsDigits s) (hrest : EndsNumber rest) :
    splitDigits (s ++ rest) = (s, rest) := by
  rw [splitDigits, takeWhile_isDigit hs hrest, dropWhile_isDigit hs hrest]

lemma endsNumber_exponentChars (exponent : Option (Bool × List Char)) :
    EndsNumber (exponentChars exponent) := by
  cases exponent with
  | none => exact endsNumber_nil
  | some e => exact endsNumber_cons (by decide) _

lemma endsNumber_tailChars (fraction : Option (List Char))
    (exponent : Option (Bool × List Char)) : EndsNumber (tailChars fraction exponent) := by
  cases fraction with
  | none => exact endsNumber_exponentChars exponent
  | some digits => exact endsNumber_cons (by decide) _

lemma readExponent_signed {digits : List Char} (negative : Bool) (hne : digits ≠ [])
    (hs : IsDigits digits) :
    readExponent ((if negative then '-' else '+') :: digits) = some (negative, digits) := by
  have hall : digits.all Char.isDigit = true := List.all_eq_true.mpr hs
  cases negative <;> simp [readExponent, hall, hne]

lemma readTail_exponentChars {negative : Bool} {whole : List Char}
    {fraction : Option (List Char)} {exponent : Option (Bool × List Char)}
    (h : ∀ e ∈ exponent, e.2 ≠ [] ∧ IsDigits e.2) :
    readTail negative whole fraction (exponentChars exponent) =
      some ⟨negative, whole, fraction, exponent⟩ := by
  cases exponent with
  | none => rfl
  | some e =>
      obtain ⟨hne, hs⟩ := h e rfl
      simp [exponentChars, readTail, readExponent_signed e.1 hne hs]

/-- Whole digits with no fraction behind them. -/
lemma readMagnitude_bare {s whole rest : List Char} (negative : Bool)
    (hsplit : splitDigits s = (whole, rest)) (hne : whole ≠ [])
    (hlead : whole.head? = some '0' → whole = ['0']) (hrest : rest.head? ≠ some '.') :
    readMagnitude negative s = readTail negative whole none rest := by
  rw [readMagnitude, hsplit]
  split <;> simp_all

/-- Whole digits, a point and a fraction. -/
lemma readMagnitude_point {s whole tail fraction rest : List Char} (negative : Bool)
    (hsplit : splitDigits s = (whole, '.' :: tail)) (hne : whole ≠ [])
    (hlead : whole.head? = some '0' → whole = ['0'])
    (htail : splitDigits tail = (fraction, rest)) (hfraction : fraction ≠ []) :
    readMagnitude negative s = readTail negative whole (some fraction) rest := by
  rw [readMagnitude, hsplit]
  split
  · next h => simp_all
  · next h => simp_all
  · next h =>
    obtain ⟨rfl, hrest⟩ := Prod.mk.inj h
    cases hrest
    rw [htail]
    split <;> simp_all
  · next hpoint h =>
    obtain ⟨-, rfl⟩ := Prod.mk.inj h
    exact absurd rfl (hpoint tail)

/-- The magnitude of a well-formed numeral is read as its parts. -/
lemma readMagnitude_magnitudeChars {n : Numeral} (h : n.WellFormed) :
    readMagnitude n.negative n.magnitudeChars = some n := by
  have hsplit : splitDigits n.magnitudeChars = (n.whole, tailChars n.fraction n.exponent) :=
    splitDigits_append h.whole_digits (endsNumber_tailChars _ _)
  cases hfraction : n.fraction with
  | none =>
      rw [hfraction, tailChars] at hsplit
      have hbare : (exponentChars n.exponent).head? ≠ some '.' := by
        cases n.exponent <;> simp [exponentChars]
      rw [readMagnitude_bare _ hsplit h.whole_ne_nil h.lead hbare,
        readTail_exponentChars h.exponent, ← hfraction]
  | some digits =>
      rw [hfraction, tailChars] at hsplit
      obtain ⟨hne, hdigits⟩ := h.fraction digits hfraction
      rw [readMagnitude_point _ hsplit h.whole_ne_nil h.lead
        (splitDigits_append hdigits (endsNumber_exponentChars _)) hne,
        readTail_exponentChars h.exponent, ← hfraction]

lemma exists_head {n : Numeral} (h : n.WellFormed) :
    ∃ c rest, n.magnitudeChars = c :: rest ∧ c.isDigit = true := by
  cases hwhole : n.whole with
  | nil => exact absurd hwhole h.whole_ne_nil
  | cons c rest =>
      exact ⟨c, _, by rw [magnitudeChars, hwhole]; rfl, h.whole_digits c (by simp [hwhole])⟩

/-- **A well-formed numeral reads back to its own parts.** -/
theorem ofChars?_chars {n : Numeral} (h : n.WellFormed) : ofChars? n.chars = some n := by
  have hread := readMagnitude_magnitudeChars h
  rw [chars_eq]
  cases hnegative : n.negative with
  | true =>
      rw [hnegative] at hread
      exact hread
  | false =>
      rw [hnegative] at hread
      obtain ⟨c, rest, hhead, hdigit⟩ := exists_head h
      simp only [Bool.false_eq_true, if_false]
      rw [← hread, hhead, ofChars?]
      intro rest hminus
      cases hminus
      exact absurd hdigit (by decide)

/-! ## The characters of a numeral -/

lemma isNumeralChar_of_isDigit {c : Char} (hc : c.isDigit = true) :
    Token.isNumeralChar c = true := by
  simp [Token.isNumeralChar, hc]

lemma isNumeralChar_of_mem_tailChars {n : Numeral} (h : n.WellFormed) {c : Char}
    (hc : c ∈ tailChars n.fraction n.exponent) : Token.isNumeralChar c = true := by
  have hexponent : ∀ c ∈ exponentChars n.exponent, Token.isNumeralChar c = true := by
    intro c hc
    cases he : n.exponent with
    | none => simp [he, exponentChars] at hc
    | some e =>
        simp only [he, exponentChars, List.mem_cons] at hc
        rcases hc with rfl | rfl | hc
        · decide
        · cases e.1 <;> decide
        · exact isNumeralChar_of_isDigit ((h.exponent e he).2 c hc)
  cases hf : n.fraction with
  | none =>
      rw [hf, tailChars] at hc
      exact hexponent c hc
  | some digits =>
      simp only [hf, tailChars, List.mem_cons, List.mem_append] at hc
      rcases hc with rfl | hc | hc
      · decide
      · exact isNumeralChar_of_isDigit ((h.fraction digits hf).2 c hc)
      · exact hexponent c hc

/-- A well-formed numeral starts with a sign or a digit, and every further character may stand in
a numeral. -/
lemma chars_eq_cons {n : Numeral} (h : n.WellFormed) :
    ∃ c rest, n.chars = c :: rest ∧ (c = '-' ∨ c.isDigit = true) ∧
      ∀ d ∈ rest, Token.isNumeralChar d = true := by
  have hmagnitude : ∀ d ∈ n.magnitudeChars, Token.isNumeralChar d = true := by
    intro d hd
    rcases List.mem_append.mp hd with hd | hd
    · exact isNumeralChar_of_isDigit (h.whole_digits d hd)
    · exact isNumeralChar_of_mem_tailChars h hd
  obtain ⟨c, rest, hhead, hdigit⟩ := exists_head h
  rw [chars_eq]
  cases n.negative with
  | true => exact ⟨'-', n.magnitudeChars, rfl, Or.inl rfl, hmagnitude⟩
  | false =>
      refine ⟨c, rest, hhead, Or.inr hdigit, fun d hd => ?_⟩
      exact hmagnitude d (by simp [hhead, hd])

/-! ## Written integers -/

lemma wellFormed_ofInt (i : Int) : (ofInt i).WellFormed where
  whole_ne_nil := digitsOf_ne_nil _
  whole_digits := isDigits_digitsOf _
  lead h := by
    by_cases hi : i.natAbs = 0
    · simp [ofInt, hi, digitsOf]
    · exact absurd h (head_digitsOf hi)
  fraction := by simp [ofInt]
  exponent := by simp [ofInt]

end Numeral

/-! ## Written floats -/

namespace Decimal

/-- Digits that do not lead with a zero. -/
structure Significant (d : Decimal) : Prop where
  ne_nil : d.digits ≠ []
  isDigits : Numeral.IsDigits d.digits
  head : d.digits.head? ≠ some '0'

/-- Dropping the zeros at the end keeps a digit in front that is none. -/
lemma trim_cons {c : Char} (hc : c ≠ '0') (s : List Char) :
    ((c :: s).reverse.dropWhile (· == '0')).reverse =
      c :: (s.reverse.dropWhile (· == '0')).reverse := by
  rw [List.reverse_cons, List.dropWhile_append]
  split
  · next h => simp [List.isEmpty_iff.mp h, hc]
  · simp

lemma significant_ofPlaces {n : Nat} (scale : Nat) (hn : n ≠ 0) :
    (ofPlaces n scale).Significant := by
  have hhead := Numeral.head_digitsOf hn
  have hdigits := Numeral.isDigits_digitsOf n
  cases hs : Numeral.digitsOf n with
  | nil => exact absurd hs (Numeral.digitsOf_ne_nil n)
  | cons c s =>
      have hc : c ≠ '0' := by simpa [hs] using hhead
      have htrim : (ofPlaces n scale).digits =
          c :: (s.reverse.dropWhile (· == '0')).reverse := by
        rw [ofPlaces, hs]
        exact trim_cons hc s
      refine ⟨by simp [htrim], fun d hd => hdigits d ?_, by simp [htrim, hc]⟩
      rw [htrim, List.mem_cons, List.mem_reverse] at hd
      rcases hd with rfl | hd
      · simp [hs]
      · have hmem := (List.dropWhile_suffix _).subset hd
        simp [hs, List.mem_reverse.mp hmem]

end Decimal

namespace Format

variable {f : Format} {tie : Tie} {units : Nat}

/-- What is written on a grid reads back. -/
lemma readsBack_onGrid {grid places : Nat} (h : f.onGrid tie units grid = some places) :
    f.readsBack units places = true := by
  simp only [onGrid] at h
  split at h
  · cases h
  · next hlow _ =>
    cases h
    exact hlow
  · next _ hhigh =>
    cases h
    exact hhigh
  · next hlow hhigh =>
    cases tie <;> simp only at h <;> split_ifs at h <;> cases h <;> assumption

/-- The shortest decimal of a magnitude that is not zero is not zero either. -/
lemma shortestPlaces_ne_zero (hunits : units ≠ 0) : f.shortestPlaces tie units ≠ 0 := by
  simp only [shortestPlaces]
  intro hzero
  cases hfound : (List.range 17).findSome? fun d =>
      f.onGrid tie units (Nat.pow 10 ((Numeral.digitsOf (f.expansion units)).length - (d + 1))) with
  | none =>
      rw [hfound] at hzero
      simp [expansion, hunits] at hzero
  | some places =>
      rw [hfound] at hzero
      obtain ⟨d, -, hgrid⟩ := List.exists_of_findSome?_eq_some hfound
      have hread := readsBack_onGrid hgrid
      rw [Option.getD_some] at hzero
      simp [readsBack, hzero, round_zero] at hread
      exact hunits hread.symm

/-- The digits of a written magnitude are significant. -/
lemma significant_shortest (f : Format) (tie : Tie) (hunits : units ≠ 0) :
    (f.shortest tie units).Significant :=
  Decimal.significant_ofPlaces _ (shortestPlaces_ne_zero hunits)

end Format

namespace Layout

variable {l : Layout} {negative : Bool}

lemma bareFraction_digits (l : Layout) :
    ∀ digits ∈ l.bareFraction, digits ≠ [] ∧ Numeral.IsDigits digits := by
  intro digits h
  simp only [bareFraction] at h
  split at h
  · cases h
    exact ⟨by simp, Numeral.isDigits_zeros 1⟩
  · cases h

/-- Significant digits are laid out as a well-formed numeral. -/
lemma wellFormed_arrange {d : Decimal} (h : d.Significant) :
    (l.arrange negative d).WellFormed := by
  obtain ⟨hne, hdigits, hhead⟩ := h
  have htake (k : Nat) (hk : 0 < k) :
      d.digits.take k ≠ [] ∧ (d.digits.take k).head? ≠ some '0' := by
    cases hs : d.digits with
    | nil => exact absurd hs hne
    | cons c s =>
        obtain ⟨k, rfl⟩ := Nat.exists_eq_succ_of_ne_zero hk.ne'
        simpa [hs] using hhead
  have hwhole (k : Nat) : Numeral.IsDigits (d.digits.take k) :=
    fun c hc => hdigits c (List.mem_of_mem_take hc)
  have hfraction (k : Nat) : Numeral.IsDigits (d.digits.drop k) :=
    fun c hc => hdigits c (List.mem_of_mem_drop hc)
  simp only [arrange]
  split
  · split
    · -- A value below one: its digits stand behind the point.
      refine ⟨by simp, Numeral.isDigits_zeros 1, by simp, ?_, by simp⟩
      rintro _ ⟨⟩
      exact ⟨by simp [hne], Numeral.isDigits_append (Numeral.isDigits_zeros _) hdigits⟩
    · next hpoint =>
      split
      · -- A whole number.
        refine ⟨by simp [hne], Numeral.isDigits_append hdigits (Numeral.isDigits_zeros _), ?_,
          l.bareFraction_digits, by simp⟩
        intro hlead
        rw [List.head?_append, Option.or_of_isSome (by simp [hne])] at hlead
        exact absurd hlead hhead
      · next hlength =>
        -- The point stands between the digits.
        obtain ⟨hne', hhead'⟩ := htake d.point.toNat (by omega)
        refine ⟨hne', hwhole _, fun hlead => absurd hlead hhead', ?_, by simp⟩
        rintro _ ⟨⟩
        exact ⟨mt List.drop_eq_nil_iff.mp hlength, hfraction _⟩
  · -- One digit before the point, and an exponent.
    obtain ⟨hne', hhead'⟩ := htake 1 (by omega)
    refine ⟨hne', hwhole _, fun hlead => absurd hlead hhead', ?_, ?_⟩
    · intro digits hmem
      simp only at hmem
      split at hmem
      · cases hmem
      · next hlength =>
        cases hmem
        exact ⟨mt List.drop_eq_nil_iff.mp hlength, hfraction _⟩
    · rintro _ ⟨⟩
      exact ⟨Numeral.digitsOf_ne_nil _, Numeral.isDigits_digitsOf _⟩

/-- **Every written magnitude is a well-formed numeral.** -/
theorem wellFormed_numeral (l : Layout) (f : Format) (negative : Bool) (units : Nat) :
    (l.numeral f negative units).WellFormed := by
  simp only [numeral]
  split_ifs with hunits
  · exact ⟨by simp, Numeral.isDigits_zeros 1, by simp, l.bareFraction_digits, by simp⟩
  · exact wellFormed_arrange (f.significant_shortest l.tie hunits)

end Layout

/-! ## The values of integers -/

namespace Amount

lemma le_foldl_digits (n : Nat) (s : List Char) :
    n ≤ s.foldl (fun n c => n * 10 + (c.toNat - 48)) n := by
  induction s generalizing n with
  | nil => exact Nat.le_refl n
  | cons c s ih =>
      have := ih (n * 10 + (c.toNat - 48))
      rw [List.foldl_cons]
      omega

/-- Digits whose number fits are all collected. -/
lemma collect_of_lt {n : Nat} {s : List Char}
    (h : s.foldl (fun n c => n * 10 + (c.toNat - 48)) n < UInt64.size) :
    collect n s = (s.foldl (fun n c => n * 10 + (c.toNat - 48)) n, 0) := by
  induction s generalizing n with
  | nil => rfl
  | cons c s ih =>
      rw [List.foldl_cons] at h ⊢
      have hfits := Nat.lt_of_le_of_lt (le_foldl_digits _ s) h
      rw [collect, if_pos hfits, ih h]

lemma collect_digitsOf {n : Nat} (h : n < UInt64.size) :
    collect 0 (Numeral.digitsOf n) = (n, 0) := by
  have hvalue := Numeral.valueOf_digitsOf n
  rw [Numeral.valueOf] at hvalue
  rw [collect_of_lt (by omega), hvalue]

lemma ofNumeral?_ofInt {i : Int} (h : i.natAbs < UInt64.size) :
    ofNumeral? (Numeral.ofInt i) =
      if 0 ≤ i then some (.natural i.natAbs)
      else if i.natAbs = 0 ∨ UInt64.size / 2 < i.natAbs
        then some (.float (-(Binary.ofNat i.natAbs)))
      else some (.negative (-(i.natAbs : Int))) := by
  simp [ofNumeral?, Numeral.ofInt, Numeral.isWhole, collect_digitsOf h]

end Amount

namespace Json

/-- **A natural number is read as itself.** -/
lemma natural?_ofNat {limit n : Nat} (hlimit : limit ≤ UInt64.size) (hn : n < limit) :
    (ofNat n).natural? limit = some n := by
  have hamount : (ofNat n).amount? = some (.natural n) := by
    have h := Amount.ofNumeral?_ofInt (i := n) (by omega)
    simpa [ofNat, ofInt, amount?] using h
  simp [natural?, hamount, hn]

/-- **A 64-bit integer is read as itself.** -/
lemma integer?_ofInt {i : Int} (hleast : -(UInt64.size / 2 : Nat) ≤ i)
    (hlast : i < (UInt64.size / 2 : Nat)) : (ofInt i).integer? = some i := by
  have hamount := Amount.ofNumeral?_ofInt (i := i) (by omega)
  have hvalue : (ofInt i).amount? = Amount.ofNumeral? (Numeral.ofInt i) := rfl
  rw [integer?, hvalue, hamount]
  by_cases hnegative : 0 ≤ i
  · have hsmall : i.natAbs < UInt64.size / 2 := by omega
    have habs : (i.natAbs : Int) = i := by omega
    simp only [if_pos hnegative, if_pos hsmall, habs]
  · have hcases : ¬(i.natAbs = 0 ∨ UInt64.size / 2 < i.natAbs) := by omega
    have habs : -(i.natAbs : Int) = i := by omega
    simp only [if_neg hnegative, if_neg hcases, habs]

/-- An unsigned 16-bit number is read as itself. -/
lemma word?_ofNat (w : UInt16) : (ofNat w.toNat).word? = some w := by
  have hread : (ofNat w.toNat).natural? UInt16.size = some w.toNat :=
    natural?_ofNat (by decide) w.toNat_lt
  rw [word?, hread]
  simp

end Json

end ChargeController
