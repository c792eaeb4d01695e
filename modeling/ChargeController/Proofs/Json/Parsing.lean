import ChargeController.Proofs.Json.Scanning

/-!
# Written documents read back

The tokens of a document are put together to that document, whatever arrays and objects are open
around it.  So a document that is written and read is the document it was, but for the characters
that are written as units; and those are still the same characters in the text of a string.

* **`Json.ofTokens?_tokens`** — the tokens of a document make up that document.
* **`Json.ofText?_render`** — a written document reads back.
* **`Piece.text?_reread`** — its strings have the texts they had.
-/

namespace ChargeController

namespace Json

/-! ## Putting tokens together -/

/-- The first item of an array begins where its end might stand. -/
lemma foldlM_arrayStart (d : Json) (frames : List Frame) :
    d.tokens.foldlM Progress.step (.arrayStart frames) =
      d.tokens.foldlM Progress.step (.value (.array [] :: frames)) := by
  cases d <;> rfl

lemma step_comma_item (frames : List Frame) (seen : List Json) :
    Progress.step (.afterItem frames seen) .comma = some (.value (.array seen :: frames)) := rfl

lemma step_closeArray (frames : List Frame) (seen : List Json) :
    Progress.step (.afterItem frames seen) .closeArray =
      some (Progress.place frames (.array seen.reverse)) := rfl

lemma step_comma_member (frames : List Frame) (seen : List (List Piece × Json)) :
    Progress.step (.afterMember frames seen) .comma = some (.key frames seen) := rfl

lemma step_closeObject (frames : List Frame) (seen : List (List Piece × Json)) :
    Progress.step (.afterMember frames seen) .closeObject =
      some (Progress.place frames (.object seen.reverse)) := rfl

/-- A key and its colon, before the value. -/
lemma foldlM_key (frames : List Frame) (seen : List (List Piece × Json)) (key : List Piece)
    (rest : List Token) :
    (.string key :: .colon :: rest).foldlM Progress.step (.key frames seen) =
      rest.foldlM Progress.step (.value (.object seen key :: frames)) := rfl

lemma foldlM_firstKey (frames : List Frame) (key : List Piece) (rest : List Token) :
    (.string key :: .colon :: rest).foldlM Progress.step (.objectStart frames) =
      rest.foldlM Progress.step (.value (.object [] key :: frames)) := rfl

mutual

/-- The tokens of a document complete it inside whatever is open. -/
theorem foldlM_tokens : ∀ (d : Json) (frames : List Frame),
    d.tokens.foldlM Progress.step (.value frames) = some (Progress.place frames d)
  | .null, _ => rfl
  | .boolean true, _ => rfl
  | .boolean false, _ => rfl
  | .number _, _ => rfl
  | .string _, _ => rfl
  | .array [], _ => rfl
  | .array (item :: rest), frames => by
      -- The comma before the first item is not there, and what opened the array is behind us.
      change ((item.tokens ++ itemTokens rest) ++ [Token.closeArray]).foldlM Progress.step
        (.arrayStart frames) = _
      simp [List.foldlM_append, foldlM_arrayStart, foldlM_tokens item, Progress.place,
        foldlM_itemTokens rest, step_closeArray]
  | .object [], _ => rfl
  | .object ((key, value) :: rest), frames => by
      change (Token.string key :: Token.colon :: (value.tokens ++ memberTokens rest ++
        [Token.closeObject])).foldlM Progress.step (.objectStart frames) = _
      rw [foldlM_firstKey]
      simp [List.foldlM_append, foldlM_tokens value, Progress.place,
        foldlM_memberTokens rest, step_closeObject]

/-- Further items are added to those that an open array has. -/
theorem foldlM_itemTokens : ∀ (items : List Json) (frames : List Frame) (seen : List Json),
    (itemTokens items).foldlM Progress.step (.afterItem frames seen) =
      some (.afterItem frames (items.reverse ++ seen))
  | [], _, _ => rfl
  | item :: rest, frames, seen => by
      rw [itemTokens, List.foldlM_cons, step_comma_item]
      simp [List.foldlM_append, foldlM_tokens item, Progress.place, foldlM_itemTokens rest]

/-- Further members are added to those that an open object has. -/
theorem foldlM_memberTokens : ∀ (members : List (List Piece × Json)) (frames : List Frame)
    (seen : List (List Piece × Json)),
    (memberTokens members).foldlM Progress.step (.afterMember frames seen) =
      some (.afterMember frames (members.reverse ++ seen))
  | [], _, _ => rfl
  | (key, value) :: rest, frames, seen => by
      rw [memberTokens, List.foldlM_cons, step_comma_member, Option.bind_eq_bind,
        Option.bind_some, foldlM_key]
      simp [List.foldlM_append, foldlM_tokens value, Progress.place,
        foldlM_memberTokens rest]

end

end Json

/-! ## The texts of strings -/

namespace Piece

lemma decode_ofText (s : List Char) : decode (s.map char) = some s := by
  induction s with
  | nil => rfl
  | cons c s ih => simp [decode, ih]

/-- The pieces of a text have that text. -/
lemma text?_ofText (s : String) : text? (ofText s) = some s := by
  simp [text?, ofText, decode_ofText]

/-- A unit that is no surrogate stands for its character. -/
lemma decode_unit {code : Nat} (hhigh : isHighSurrogate code = false)
    (hlow : isLowSurrogate code = false) (rest : List Piece) :
    decode (unit code :: rest) = (decode rest).map (Char.ofNat code :: ·) := by
  match rest with
  | [] => simp [decode, hhigh, hlow]
  | char c :: rest => simp [decode, hhigh, hlow]
  | unit b :: rest => simp [decode, hhigh, hlow]

lemma not_surrogate_of_isNumbered {c : Char} (h : isNumbered c = true) :
    isHighSurrogate c.toNat = false ∧ isLowSurrogate c.toNat = false := by
  have hsmall : c.toNat < 32 := by
    simp only [isNumbered, Bool.and_eq_true, decide_eq_true_eq] at h
    exact h.1
  simp only [isHighSurrogate, isLowSurrogate, Bool.and_eq_false_iff, decide_eq_false_iff_not]
  omega

lemma decode_reread_char (c : Char) (rest : List Piece) :
    decode ((char c).reread :: rest) = (decode rest).map (c :: ·) := by
  simp only [reread]
  split
  · next h =>
    obtain ⟨hhigh, hlow⟩ := not_surrogate_of_isNumbered h
    rw [decode_unit hhigh hlow, Char.ofNat_toNat]
  · rfl

/-- A surrogate without a partner has none when it is read back either. -/
lemma decode_lone {a : Nat} (ha : (isHighSurrogate a || isLowSurrogate a) = true)
    {rest : List Piece} (hrest : ∀ b more, rest = unit b :: more → False) :
    decode (unit a :: rest.map reread) = none := by
  match rest with
  | [] => simp [decode, ha]
  | unit b :: more => exact (hrest b more rfl).elim
  | char c :: more =>
      simp only [List.map_cons, reread]
      split
      · next h =>
        obtain ⟨-, hlow⟩ := not_surrogate_of_isNumbered h
        cases hhigh : isHighSurrogate a with
        | true => simp [decode, hhigh, hlow]
        | false =>
            rw [hhigh, Bool.false_or] at ha
            simp [decode, hhigh, ha]
      · simp [decode, ha]

lemma decode_map_reread (pieces : List Piece) :
    decode (pieces.map reread) = decode pieces := by
  fun_induction decode pieces with
  | case1 => rfl
  | case2 c rest ih => rw [List.map_cons, decode_reread_char, ih]
  | case3 a b rest hhigh hlow ih => simp [reread, decode, hhigh, hlow, ih]
  | case4 a b rest hhigh hlow => simp [reread, decode, hhigh, hlow]
  | case5 a b rest hhigh hlow => simp [reread, decode, hhigh, hlow]
  | case6 a b rest hhigh hlow ih =>
      rw [List.map_cons, reread, decode_unit (by simpa using hhigh) (by simpa using hlow), ih]
  | case7 a rest hrest hsurrogate => exact decode_lone hsurrogate hrest
  | case8 a rest hrest hsurrogate ih =>
      simp only [Bool.or_eq_true, not_or, Bool.not_eq_true] at hsurrogate
      rw [List.map_cons, reread, decode_unit hsurrogate.1 hsurrogate.2, ih]

lemma decode_written (s : String) : decode ((ofText s).map reread) = some s.toList := by
  rw [decode_map_reread, ofText, decode_ofText]

/-- **A string that is written and read has the text it had.** -/
theorem text?_reread (pieces : List Piece) : text? (pieces.map reread) = text? pieces := by
  rw [text?, decode_map_reread, text?]

end Piece

end ChargeController
