import ChargeController.Proofs.Settings.Blame
import ChargeController.Proofs.Text.Hexadecimal

/-!
# Queries of single registers

A query names a table by a number and an address by a text.  Either they are understood, and then
the query is one read of one register, or nothing is sent.  Which texts are understood is told
without the reader: blanks, a mark or none, a plus sign or none, digits, blanks.

* `NamesAddress` — that a text names an address.
* **`readAddress_eq_ok_iff`** — the address that is read is the one that is named.
* `FirstValue`, `Concludes` — what a query makes of the first bytes of an answer.
* **`query_reads_one_or_refuses`** — a query sends one read or nothing, and what comes of it.
-/

namespace ChargeController

/-! ## Tables by number -/

/-- The tables, each with the number that queries name it by. -/
def tableCodes : List (Nat × Table) :=
  [(1, .coil), (2, .discreteInput), (3, .holding), (4, .input)]

lemma ofCode?_eq_some_iff {n : Nat} {table : Table} :
    Table.ofCode? n = some table ↔ (n, table) ∈ tableCodes := by
  unfold Table.ofCode?
  split <;> simp_all [tableCodes, eq_comm]

namespace Settings

open Text

/-! ## Addresses in texts -/

/-- The marks of hexadecimal numbers, and none. -/
def marks : List (List Char) :=
  [[], ['0', 'x'], ['0', 'X']]

/-- That a text names an address: between blanks, a mark and a number. -/
def NamesAddress (text : String) (n : Nat) : Prop :=
  ∃ front mark number back, text.toList = front ++ (mark ++ number) ++ back ∧
    (∀ c ∈ front ++ back, isBlank c = true) ∧ mark ∈ marks ∧ IsUnsigned number n

/-- A text without the mark at its front. -/
def withoutMark : List Char → List Char
  | '0' :: 'x' :: rest => rest
  | '0' :: 'X' :: rest => rest
  | s => s

lemma readAddress_eq (text : String) :
    readAddress text =
      UInt16.ofNat <$> readUnsigned 16 UInt16.size (withoutMark (trim text.toList)) := rfl

lemma exists_mark (s : List Char) : ∃ mark ∈ marks, s = mark ++ withoutMark s := by
  unfold withoutMark
  split
  · exact ⟨['0', 'x'], by simp [marks], rfl⟩
  · exact ⟨['0', 'X'], by simp [marks], rfl⟩
  · exact ⟨[], by simp [marks], rfl⟩

/-- A mark is taken off once, and no number begins with one. -/
lemma withoutMark_append {mark number : List Char} {n : Nat} (hmark : mark ∈ marks)
    (hnumber : IsUnsigned number n) : withoutMark (mark ++ number) = number := by
  simp only [marks, List.mem_cons, List.not_mem_nil, or_false] at hmark
  rcases hmark with rfl | rfl | rfl
  · rw [List.nil_append]
    unfold withoutMark
    split
    · exact absurd (hnumber.mem (List.mem_cons_of_mem _ List.mem_cons_self)) (by decide)
    · exact absurd (hnumber.mem (List.mem_cons_of_mem _ List.mem_cons_self)) (by decide)
    · rfl
  · rfl
  · rfl

lemma isBlank_of_marked {mark number : List Char} {n : Nat} (hmark : mark ∈ marks)
    (hnumber : IsUnsigned number n) : ∀ c ∈ mark ++ number, isBlank c = false := by
  have hsolid : (marks.flatten ++ '+' :: hexDigits).all (!isBlank ·) = true := by decide
  intro c hc
  have hmem : c ∈ marks.flatten ++ '+' :: hexDigits := by
    rcases List.mem_append.mp hc with hc | hc
    · exact List.mem_append_left _ (List.mem_flatten_of_mem hmark hc)
    · exact List.mem_append_right _ (hnumber.mem hc)
  simpa using List.all_eq_true.mp hsolid c hmem

/-- **The address that is read is the one that the text names.** -/
theorem readAddress_eq_ok_iff {text : String} {a : UInt16} :
    readAddress text = .ok a ↔ NamesAddress text a.toNat := by
  rw [readAddress_eq]
  constructor
  · intro h
    obtain ⟨n, hread, rfl⟩ := ok_of_map h
    obtain ⟨hnumber, hlt⟩ := (readUnsigned_eq_ok_iff (by decide)).mp hread
    obtain ⟨front, back, htext, hblank⟩ := exists_trim text.toList
    obtain ⟨mark, hmark, hcore⟩ := exists_mark (trim text.toList)
    refine ⟨front, mark, _, back, hcore ▸ htext, hblank, hmark, ?_⟩
    rwa [UInt16.toNat_ofNat_of_lt' hlt]
  · rintro ⟨front, mark, number, back, htext, hblank, hmark, hnumber⟩
    have hread : readUnsigned 16 UInt16.size number = .ok a.toNat :=
      (readUnsigned_eq_ok_iff (by decide)).mpr ⟨hnumber, a.toNat_lt⟩
    rw [htext, trim_between hblank (isBlank_of_marked hmark hnumber),
      withoutMark_append hmark hnumber, hread]
    exact congrArg Except.ok UInt16.ofNat_toNat

/-! ## Answers -/

/-- The number that the first bytes of an answer tell, whatever bytes follow them: the lowest bit of
a switch, and of a register a word with its high byte first. -/
inductive FirstValue : Table → Bytes → Nat → Prop
  | coil {byte rest} : FirstValue .coil (byte :: rest) (byte.toNat % 2)
  | discreteInput {byte rest} : FirstValue .discreteInput (byte :: rest) (byte.toNat % 2)
  | holding {high low rest} :
      FirstValue .holding (high :: low :: rest) (256 * high.toNat + low.toNat)
  | input {high low rest} : FirstValue .input (high :: low :: rest) (256 * high.toNat + low.toNat)

/-- What an answer that lacks bytes is said to lack. -/
def lacking (table : Table) (data : Bytes) : RegisterFault :=
  match table with
  | .coil => .tooShort "bit" 1 data.length
  | .discreteInput => .tooShort "bit" 1 data.length
  | .holding => .tooShort "int" 2 data.length
  | .input => .tooShort "int" 2 data.length

lemma firstSwitch_cases (data : Bytes) :
    (∃ byte rest value, data = byte :: rest ∧ firstSwitch data = .ok value ∧
      value.toNat = byte.toNat % 2) ∨
      data.length < 1 ∧ firstSwitch data = .error (.tooShort "bit" 1 data.length) := by
  cases data with
  | nil => exact .inr ⟨Nat.one_pos, rfl⟩
  | cons byte rest =>
      refine .inl ⟨byte, rest, byte.toUInt16 &&& 1, rfl, rfl, ?_⟩
      rw [UInt16.toNat_and, UInt8.toNat_toUInt16]
      exact Nat.and_one_is_mod byte.toNat

lemma readWord_cases (what : String) (data : Bytes) :
    (∃ high low rest, data = high :: low :: rest ∧
      Register.readWord what data = .ok (Register.word high low)) ∨
      data.length < 2 ∧ Register.readWord what data = .error (.tooShort what 2 data.length) := by
  match data with
  | [] => exact .inr ⟨Nat.two_pos, rfl⟩
  | [_] => exact .inr ⟨Nat.one_lt_two, rfl⟩
  | high :: low :: rest => exact .inl ⟨high, low, rest, rfl, rfl⟩

/-- **What a query makes of data**: the value that its first bytes tell, or what it lacks. -/
lemma queriedValue_cases (table : Table) (data : Bytes) :
    (∃ value : UInt16, queriedValue table data = .ok value ∧ FirstValue table data value.toNat) ∨
      data.length < table.answerLength 1 ∧
        queriedValue table data = .error (lacking table data) := by
  cases table with
  | coil =>
      rcases firstSwitch_cases data with ⟨byte, rest, value, rfl, hvalue, hbit⟩ | hshort
      · exact .inl ⟨value, hvalue, hbit ▸ .coil⟩
      · exact .inr hshort
  | discreteInput =>
      rcases firstSwitch_cases data with ⟨byte, rest, value, rfl, hvalue, hbit⟩ | hshort
      · exact .inl ⟨value, hvalue, hbit ▸ .discreteInput⟩
      · exact .inr hshort
  | holding =>
      rcases readWord_cases "int" data with ⟨high, low, rest, rfl, hvalue⟩ | hshort
      · exact .inl ⟨_, hvalue, (Register.toNat_word high low).symm ▸ .holding⟩
      · exact .inr hshort
  | input =>
      rcases readWord_cases "int" data with ⟨high, low, rest, rfl, hvalue⟩ | hshort
      · exact .inl ⟨_, hvalue, (Register.toNat_word high low).symm ▸ .input⟩
      · exact .inr hshort

/-! ## Queries -/

section

variable (code : UInt8) (text : String) (table : Table) (a : UInt16)

/-- What a query comes to with an answer to its read: a fault of the read, the value that the first
bytes tell, or a fault for want of bytes. -/
inductive Concludes : Answer → Except SettingsFault QueryResult → Prop
  | failed {source} : Concludes (.error source) (.error (.read queriedName a source))
  | found {data} {value : UInt16} (h : FirstValue table data value.toNat) :
      Concludes (.ok data) (.ok ⟨code, text, value⟩)
  | short {data} (h : data.length < table.answerLength 1) :
      Concludes (.ok data) (.error (.decode queriedName a (lacking table data)))

/-- The result of a query by the answer to its read. -/
def conclusion : Answer → Except SettingsFault QueryResult
  | .error source => .error (.read queriedName a source)
  | .ok data =>
      match queriedValue table data with
      | .error source => .error (.decode queriedName a source)
      | .ok result => .ok ⟨code, text, result⟩

lemma concludes_conclusion (answer : Answer) :
    Concludes code text table a answer (conclusion code text table a answer) := by
  cases answer with
  | error source => exact .failed
  | ok data =>
      simp only [conclusion]
      rcases queriedValue_cases table data with ⟨value, hvalue, hfirst⟩ | ⟨hlength, hshort⟩
      · rw [hvalue]
        exact .found hfirst
      · rw [hshort]
        exact .short hlength

end

variable {code : UInt8} {text : String} {es : List Line} {result : Except SettingsFault QueryResult}

/-- A query that is understood is one read. -/
lemma tells_query {table : Table} {a : UInt16} (hcode : Table.ofCode? code.toNat = some table)
    (haddress : readAddress text = .ok a) :
    Tells (query code text) es result ↔
      ∃ answer, es = [⟨.send (.read table a 1), answer⟩] ∧
        result = conclusion code text table a answer := by
  have hrest (answer : Answer) {es : List Line} : Tells
      (match answer with
        | .error source => throw (.read queriedName a source)
        | .ok data =>
            match queriedValue table data with
            | .error source => throw (.decode queriedName a source)
            | .ok result => return ⟨code, text, result⟩) es result ↔
      es = [] ∧ result = conclusion code text table a answer := by
    simp only [conclusion]
    split
    · exact tells_throw
    · split
      · exact tells_throw
      · exact tells_pure
  simp only [query, hcode, haddress]
  refine Dialogue.ends_run_question_bind.trans ?_
  constructor
  · rintro ⟨answer, _, rfl, h⟩
    obtain ⟨rfl, rfl⟩ := (hrest answer).mp h
    exact ⟨answer, rfl, rfl⟩
  · rintro ⟨answer, rfl, rfl⟩
    exact ⟨answer, [], rfl, (hrest answer).mpr ⟨rfl, rfl⟩⟩

/-- A query that is not understood is refused. -/
lemma tells_query_refused
    (h : ¬ ∃ table a, Table.ofCode? code.toNat = some table ∧ readAddress text = .ok a) :
    ∃ fault, ∀ es result, Tells (query code text) es result ↔
      es = [] ∧ result = .error (.invalidQuery fault) := by
  unfold query
  split
  · exact ⟨_, fun _ _ => tells_throw⟩
  · exact ⟨_, fun _ _ => tells_throw⟩
  · next table a hcode haddress => exact absurd ⟨table, a, hcode, haddress⟩ h

/-- **A query sends one read or nothing.**  Where the table is one of the four and the text names an
address, the query is a read of the one register there, and its result is told by the first bytes of
the answer; in every other case it is refused. -/
theorem query_reads_one_or_refuses (code : UInt8) (text : String) :
    (∀ table (a : UInt16), (code.toNat, table) ∈ tableCodes → NamesAddress text a.toNat →
      ∃ conclude : Answer → Except SettingsFault QueryResult,
        (∀ answer, Concludes code text table a answer (conclude answer)) ∧
          ∀ es result, Tells (query code text) es result ↔
            ∃ answer, es = [⟨.send (.read table a 1), answer⟩] ∧ result = conclude answer) ∧
      ((¬ ∃ table, ∃ a : UInt16, (code.toNat, table) ∈ tableCodes ∧ NamesAddress text a.toNat) →
        ∃ fault, ∀ es result, Tells (query code text) es result ↔
          es = [] ∧ result = .error (.invalidQuery fault)) := by
  simp only [← ofCode?_eq_some_iff, ← readAddress_eq_ok_iff]
  constructor
  · intro table a hcode haddress
    exact ⟨conclusion code text table a, concludes_conclusion code text table a,
      fun es result => tells_query hcode haddress⟩
  · exact tells_query_refused

/-- An address with blanks around it, a mark, a plus sign, zeros and digits of both cases. -/
def ornateAddress : String :=
  "\u2003 0X+00fF\u3000"

lemma namesAddress_ornateAddress : NamesAddress ornateAddress 255 := by
  refine ⟨['\u2003', ' '], ['0', 'X'], "+00fF".toList, ['\u3000'], by decide,
    List.all_eq_true.mp (by decide), by decide,
    ['+'], "00fF".toList, rfl, by decide, by decide, [0, 0, 15, 15], ?_, by decide⟩
  exact .cons (by decide) (.cons (by decide) (.cons (by decide) (.cons (by decide) .nil)))

/-- Of a holding register it reads the first word of the answer, and of a fifth table nothing. -/
theorem ornate_address_queried :
    NamesAddress ornateAddress 255 ∧
      Tells (query 3 ornateAddress) [⟨.send (.read .holding 255 1), .ok [0x12, 0x34, 0x56]⟩]
        (.ok ⟨3, ornateAddress, 0x1234⟩) ∧
      ∃ fault, Tells (query 5 ornateAddress) [] (.error (.invalidQuery fault)) := by
  obtain ⟨conclude, hconclude, htells⟩ :=
    (query_reads_one_or_refuses 3 ornateAddress).1 .holding 255 (by decide)
      namesAddress_ornateAddress
  have hvalue : conclude (.ok [0x12, 0x34, 0x56]) = .ok ⟨3, ornateAddress, 0x1234⟩ := by
    have h := hconclude (.ok [0x12, 0x34, 0x56])
    generalize conclude (.ok [0x12, 0x34, 0x56]) = r at h ⊢
    cases h with
    | @found _ value hfirst =>
        generalize hn : value.toNat = n at hfirst
        cases hfirst
        rw [show value = 0x1234 from UInt16.toNat_inj.mp hn]
    | short hshort => exact absurd hshort (by decide)
  obtain ⟨fault, hrefused⟩ := (query_reads_one_or_refuses 5 ornateAddress).2 (by
    rintro ⟨table, a, hcode, -⟩
    revert hcode
    cases table <;> decide)
  exact ⟨namesAddress_ornateAddress, (htells _ _).mpr ⟨_, rfl, hvalue.symm⟩, fault,
    (hrefused _ _).mpr ⟨rfl, rfl⟩⟩

end Settings

end ChargeController
