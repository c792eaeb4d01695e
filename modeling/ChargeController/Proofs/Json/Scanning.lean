import ChargeController.Json.Reader
import ChargeController.Proofs.Json.Numerals

/-!
# The tokens of a written document

A written document is scanned to its tokens.  A word or a numeral has no end of its own: it is
complete when the next character cannot belong to it, or when the text ends.  So a scan is followed
to where the text might end, and what it would give there is what any mark behind it makes final.

The characters without a short escape are written as the number of a unit, and a reader keeps the
number; apart from that a document comes back as it was.

* `Json.reread` — a document as it is read back.
* `Json.tokens` — the tokens of a document, in a row.
* `Scans` — a text is scanned to tokens wherever a token may start.
* **`Token.ofText?_render`** — a written document has the tokens of the document read back.
-/

namespace ChargeController

namespace Piece

/-- The unit of a piece has four hexadecimal digits. -/
def Fits : Piece → Prop
  | char _ => True
  | unit code => code < 0x10000

/-- The characters that can only be written as the number of a unit. -/
def isNumbered (c : Char) : Bool :=
  c.toNat < 32 && !(c == '\n' || c == '\r' || c == '\t' || c.toNat == 8 || c.toNat == 12)

/-- The piece that a written piece is read back as. -/
def reread : Piece → Piece
  | char c => if isNumbered c then unit c.toNat else char c
  | unit code => unit code

end Piece

namespace Json

mutual

/-- Numerals and pieces are such as readers know them, all through a document. -/
def WellFormed : Json → Prop
  | .number n => n.WellFormed
  | .string pieces => ∀ p ∈ pieces, p.Fits
  | .array items => ItemsWellFormed items
  | .object members => MembersWellFormed members
  | _ => True

/-- Every item is well formed. -/
def ItemsWellFormed : List Json → Prop
  | [] => True
  | item :: rest => WellFormed item ∧ ItemsWellFormed rest

/-- Every member is well formed. -/
def MembersWellFormed : List (List Piece × Json) → Prop
  | [] => True
  | (key, value) :: rest => (∀ p ∈ key, p.Fits) ∧ WellFormed value ∧ MembersWellFormed rest

end

mutual

/-- A document as it is read back. -/
def reread : Json → Json
  | .string pieces => .string (pieces.map Piece.reread)
  | .array items => .array (rereadItems items)
  | .object members => .object (rereadMembers members)
  | d => d

/-- Items as they are read back. -/
def rereadItems : List Json → List Json
  | [] => []
  | item :: rest => reread item :: rereadItems rest

/-- Members as they are read back. -/
def rereadMembers : List (List Piece × Json) → List (List Piece × Json)
  | [] => []
  | (key, value) :: rest => (key.map Piece.reread, reread value) :: rereadMembers rest

end

mutual

/-- The tokens of a document. -/
def tokens : Json → List Token
  | .null => [.word "null".toList]
  | .boolean value => [.word (if value then "true".toList else "false".toList)]
  | .number n => [.numeral n]
  | .string pieces => [.string pieces]
  | .array items => .openArray :: ((itemTokens items).tail ++ [.closeArray])
  | .object members => .openObject :: ((memberTokens members).tail ++ [.closeObject])

/-- The tokens of the items of an array, a comma before each. -/
def itemTokens : List Json → List Token
  | [] => []
  | item :: rest => .comma :: (tokens item ++ itemTokens rest)

/-- The tokens of the members of an object, a comma before each. -/
def memberTokens : List (List Piece × Json) → List Token
  | [] => []
  | (key, value) :: rest => .comma :: .string key :: .colon :: (tokens value ++ memberTokens rest)

end

end Json

/-! ## Texts and their tokens -/

namespace Token

/-- Wherever a token may start, a text is scanned to the given tokens if it ends there. -/
def Scans (text : List Char) (tokens : List Token) : Prop :=
  ∀ before, ∃ s, text.foldlM Scan.step ⟨before, .between⟩ = some s ∧
    s.finish = some (before.reverse ++ tokens)

/-- A text that is scanned to the given tokens whatever follows it. -/
def Closes (text : List Char) (tokens : List Token) : Prop :=
  ∀ before, text.foldlM Scan.step ⟨before, .between⟩ = some ⟨tokens.reverse ++ before, .between⟩

variable {a b : List Char} {s t : List Token}

lemma scans_nil : Scans [] [] :=
  fun before => ⟨_, rfl, by simp [Scan.finish]⟩

lemma Closes.scans (h : Closes a s) : Scans a s := by
  intro before
  exact ⟨_, h before, by simp [Scan.finish]⟩

lemma Closes.append (ha : Closes a s) (hb : Closes b t) : Closes (a ++ b) (s ++ t) := by
  intro before
  rw [List.foldlM_append, ha before]
  simpa using hb (s.reverse ++ before)

lemma Closes.append_scans (ha : Closes a s) (hb : Scans b t) : Scans (a ++ b) (s ++ t) := by
  intro before
  obtain ⟨scan, hscan, hfinish⟩ := hb (s.reverse ++ before)
  refine ⟨scan, ?_, by simpa using hfinish⟩
  rw [List.foldlM_append, ha before]
  exact hscan

/-- A character that belongs to no word and no numeral completes what was scanned. -/
lemma step_of_finish {scan : Scan} {all : List Token} {c : Char} (h : scan.finish = some all)
    (hword : isWordChar c = false) (hnumeral : isNumeralChar c = false) :
    scan.step c = Scan.start all.reverse c := by
  obtain ⟨before, mode⟩ := scan
  cases mode with
  | between =>
      simp only [Scan.finish, Option.some.injEq] at h
      simp [Scan.step, ← h]
  | word seen =>
      simp only [Scan.finish, Option.some.injEq] at h
      simp [Scan.step, hword, ← h]
  | numeral seen =>
      simp only [Scan.finish, Option.map_eq_some_iff] at h
      obtain ⟨n, hn, rfl⟩ := h
      simp [Scan.step, hnumeral, hn]
  -- A text cannot end inside a string, so there is nothing to complete.
  | string seen => cases h
  | escape seen => cases h
  | unit seen value missing => cases h

/-- A single character that is a token by itself. -/
structure Marks (c : Char) (mark : Token) : Prop where
  word : isWordChar c = false
  numeral : isNumeralChar c = false
  start : ∀ before, Scan.start before c = some ⟨mark :: before, .between⟩

lemma marks_openArray : Marks '[' .openArray := ⟨by decide, by decide, fun _ => rfl⟩

lemma marks_closeArray : Marks ']' .closeArray := ⟨by decide, by decide, fun _ => rfl⟩

lemma marks_openObject : Marks '\x7b' .openObject := ⟨by decide, by decide, fun _ => rfl⟩

lemma marks_closeObject : Marks '\x7d' .closeObject := ⟨by decide, by decide, fun _ => rfl⟩

lemma marks_comma : Marks ',' .comma := ⟨by decide, by decide, fun _ => rfl⟩

lemma marks_colon : Marks ':' .colon := ⟨by decide, by decide, fun _ => rfl⟩

lemma Marks.closes {c : Char} {mark : Token} (h : Marks c mark) : Closes [c] [mark] := by
  intro before
  simp [Scan.step, h.start]

/-- Whatever was scanned, a mark behind it makes it final. -/
lemma Scans.mark {c : Char} {mark : Token} (ha : Scans a s) (h : Marks c mark) :
    Closes (a ++ [c]) (s ++ [mark]) := by
  intro before
  obtain ⟨scan, hscan, hfinish⟩ := ha before
  rw [List.foldlM_append, hscan]
  simp [step_of_finish hfinish h.word h.numeral, h.start]

/-! ## Strings -/

lemma hexValue?_digitChar {d : Nat} (hd : d < 16) : hexValue? d.digitChar = some d := by
  revert d
  decide

/-- The four digits of a unit. -/
lemma foldlM_unit {code : Nat} (hcode : code < 0x10000) (before : List Token)
    (seen : List Piece) :
    (Text.padLeft 4 (Nat.toDigits 16 code)).foldlM Scan.step ⟨before, .unit seen 0 4⟩ =
      some ⟨before, .string (.unit code :: seen)⟩ := by
  have hdigits : Text.padLeft 4 (Nat.toDigits 16 code) =
      [(code / 16 / 16 / 16).digitChar, (code / 16 / 16 % 16).digitChar,
        (code / 16 % 16).digitChar, (code % 16).digitChar] := by
    have hfirst : Nat.toDigits 16 (code / 16 / 16 / 16) = [(code / 16 / 16 / 16).digitChar] :=
      Nat.toDigits_of_lt_base (by omega)
    rw [Text.padLeft_toDigits_succ (by omega), Text.padLeft_toDigits_succ (by omega),
      Text.padLeft_toDigits_succ (by omega), hfirst]
    rfl
  have hvalue : ((code / 16 / 16 / 16 * 16 + code / 16 / 16 % 16) * 16 + code / 16 % 16) * 16 +
      code % 16 = code := by omega
  rw [hdigits]
  simp [Scan.step, hexValue?_digitChar (by omega : code / 16 / 16 / 16 < 16),
    hexValue?_digitChar (by omega : code / 16 / 16 % 16 < 16),
    hexValue?_digitChar (by omega : code / 16 % 16 < 16),
    hexValue?_digitChar (by omega : code % 16 < 16), hvalue]

/-- A character as it is written inside a string. -/
lemma foldlM_escaped (c : Char) (before : List Token) (seen : List Piece) :
    (Json.escaped c).foldlM Scan.step ⟨before, .string seen⟩ =
      some ⟨before, .string ((Piece.char c).reread :: seen)⟩ := by
  have hcode := Char.ofNat_toNat c
  simp only [Json.escaped]
  split_ifs with hquote hbackslash hnewline hreturn htab hback hfeed hcontrol
  · subst hquote
    rfl
  · subst hbackslash
    rfl
  · subst hnewline
    rfl
  · subst hreturn
    rfl
  · subst htab
    rfl
  · rw [hback] at hcode
    subst hcode
    rfl
  · rw [hfeed] at hcode
    subst hcode
    rfl
  · have hnumbered : Piece.isNumbered c = true := by
      simp [Piece.isNumbered, hcontrol, hnewline, hreturn, htab, hback, hfeed]
    rw [List.foldlM_append]
    simpa [Scan.step, Piece.reread, hnumbered] using
      foldlM_unit (by omega : c.toNat < 0x10000) before seen
  · simp [Scan.step, Piece.reread, Piece.isNumbered, hquote, hbackslash, hcontrol]

/-- One piece as it is written. -/
lemma foldlM_piece {p : Piece} (hp : p.Fits) (before : List Token) (seen : List Piece) :
    (Json.pieceChars p).foldlM Scan.step ⟨before, .string seen⟩ =
      some ⟨before, .string (p.reread :: seen)⟩ := by
  cases p with
  | char c => exact foldlM_escaped c before seen
  | unit code =>
      rw [Json.pieceChars, List.foldlM_append]
      simpa [Scan.step, Piece.reread] using foldlM_unit hp before seen

lemma foldlM_pieces {pieces : List Piece} (hpieces : ∀ p ∈ pieces, p.Fits)
    (before : List Token) (seen : List Piece) :
    (pieces.flatMap Json.pieceChars).foldlM Scan.step ⟨before, .string seen⟩ =
      some ⟨before, .string ((pieces.map Piece.reread).reverse ++ seen)⟩ := by
  induction pieces generalizing seen with
  | nil => simp
  | cons p rest ih =>
      rw [List.flatMap_cons, List.foldlM_append, foldlM_piece (hpieces p (by simp))]
      simpa using ih (fun q hq => hpieces q (by simp [hq])) (p.reread :: seen)

/-- A written string is scanned to the string that is read back. -/
lemma closes_quoted {pieces : List Piece} (hpieces : ∀ p ∈ pieces, p.Fits) :
    Closes (Json.quoted pieces).toList [.string (pieces.map Piece.reread)] := by
  intro before
  have hopen : ['"'].foldlM Scan.step ⟨before, .between⟩ = some ⟨before, .string []⟩ := rfl
  have hclose (seen : List Piece) : ['"'].foldlM Scan.step ⟨before, .string seen⟩ =
      some ⟨.string seen.reverse :: before, .between⟩ := rfl
  have htext : (Json.quoted pieces).toList =
      ['"'] ++ pieces.flatMap Json.pieceChars ++ ['"'] := by
    simp [Json.quoted]
  simp only [htext, List.foldlM_append, hopen, foldlM_pieces hpieces before [], hclose,
    Option.bind_eq_bind, Option.bind_some]
  simp

/-! ## Words and numerals -/

lemma scans_null : Scans "null".toList [.word "null".toList] :=
  fun before => ⟨⟨before, .word "null".toList.reverse⟩, rfl, by simp [Scan.finish]⟩

lemma scans_true : Scans "true".toList [.word "true".toList] :=
  fun before => ⟨⟨before, .word "true".toList.reverse⟩, rfl, by simp [Scan.finish]⟩

lemma scans_false : Scans "false".toList [.word "false".toList] :=
  fun before => ⟨⟨before, .word "false".toList.reverse⟩, rfl, by simp [Scan.finish]⟩

lemma foldlM_numeral {s : List Char} (hs : ∀ d ∈ s, isNumeralChar d = true)
    (before : List Token) (seen : List Char) :
    s.foldlM Scan.step ⟨before, .numeral seen⟩ =
      some ⟨before, .numeral (s.reverse ++ seen)⟩ := by
  induction s generalizing seen with
  | nil => rfl
  | cons c s ih =>
      have hstep : Scan.step ⟨before, .numeral seen⟩ c = some ⟨before, .numeral (c :: seen)⟩ := by
        simp [Scan.step, hs c (by simp)]
      rw [List.foldlM_cons, hstep]
      simpa using ih (fun d hd => hs d (by simp [hd])) (c :: seen)

/-- A well-formed numeral is a token. -/
lemma scans_numeral {n : Numeral} (h : n.WellFormed) : Scans n.chars [.numeral n] := by
  intro before
  obtain ⟨c, rest, hchars, hfirst, hrest⟩ := Numeral.chars_eq_cons h
  have hstart : Scan.step ⟨before, .between⟩ c = some ⟨before, .numeral [c]⟩ := by
    have hgap : isGap c = false := by
      rw [Bool.eq_false_iff]
      intro h
      simp only [isGap, Bool.or_eq_true, beq_iff_eq] at h
      rcases h with ((rfl | rfl) | rfl) | rfl <;> exact absurd hfirst (by decide)
    have hquote : c ≠ '"' := by
      rintro rfl
      exact absurd hfirst (by decide)
    simp [Scan.step, Scan.start, hgap, hquote, hfirst]
  have hfinish := Numeral.ofChars?_chars h
  rw [hchars] at hfinish
  refine ⟨⟨before, .numeral (rest.reverse ++ [c])⟩, ?_, by simp [Scan.finish, hfinish]⟩
  rw [hchars, List.foldlM_cons, hstart]
  exact foldlM_numeral hrest before [c]

/-! ## Documents -/

mutual

/-- A written document is scanned to the tokens of the document read back. -/
theorem scans_render : ∀ d : Json, d.WellFormed → Scans d.render.toList d.reread.tokens
  | .null, _ => scans_null
  | .boolean true, _ => scans_true
  | .boolean false, _ => scans_false
  | .number n, h => by
      simpa [Json.render, Json.reread, Json.tokens, Numeral.text] using scans_numeral h
  | .string pieces, h => by
      simpa [Json.render, Json.reread, Json.tokens] using (closes_quoted h).scans
  | .array items, h => by
      have hclosed := marks_openArray.closes.append
        ((scans_items items h).mark marks_closeArray)
      simpa [Json.render, Json.reread, Json.tokens] using hclosed.scans
  | .object members, h => by
      have hclosed := marks_openObject.closes.append
        ((scans_members members h).mark marks_closeObject)
      simpa [Json.render, Json.reread, Json.tokens] using hclosed.scans

/-- The items of an array are scanned with a comma between them. -/
theorem scans_items : ∀ items : List Json, Json.ItemsWellFormed items →
    Scans (",".intercalate (Json.renderItems items)).toList
      (Json.itemTokens (Json.rereadItems items)).tail
  | [], _ => scans_nil
  | [item], h => by
      simpa [Json.renderItems, Json.rereadItems, Json.itemTokens] using scans_render item h.1
  | item :: next :: rest, h => by
      have hmark := (scans_render item h.1).mark marks_comma
      have hscans := hmark.append_scans (scans_items (next :: rest) h.2)
      simpa [Json.renderItems, Json.rereadItems, Json.itemTokens] using hscans

/-- The members of an object are scanned with a comma between them. -/
theorem scans_members : ∀ members : List (List Piece × Json), Json.MembersWellFormed members →
    Scans (",".intercalate (Json.renderMembers members)).toList
      (Json.memberTokens (Json.rereadMembers members)).tail
  | [], _ => scans_nil
  | [(key, value)], h => by
      have hscans := ((closes_quoted h.1).append marks_colon.closes).append_scans
        (scans_render value h.2.1)
      simpa [Json.renderMembers, Json.rereadMembers, Json.memberTokens] using hscans
  | (key, value) :: next :: rest, h => by
      have hscans := ((closes_quoted h.1).append marks_colon.closes).append_scans
        (scans_render value h.2.1)
      have hmore := (hscans.mark marks_comma).append_scans (scans_members (next :: rest) h.2.2)
      simpa [Json.renderMembers, Json.rereadMembers, Json.memberTokens] using hmore

end

end Token

end ChargeController
