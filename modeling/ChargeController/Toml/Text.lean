/-!
# Texts in TOML

The four ways to quote a text — basic and literal, each on one line or on several — and the bare
words that keys may be.  Lines end in a line feed by the time they are read here, so a carriage
return is one more control character that may stand nowhere.

* `readQuoted` — a text of any kind.
* `readOneLine` — a text of the kinds that a key may have.
-/

namespace ChargeController.Toml

/-- Takes something from the front of a text, if it is there, and leaves the rest. -/
abbrev Reader (α : Type) := List Char → Option (α × List Char)

/-- The same reader with its result changed. -/
def Reader.map {α β : Type} (f : α → β) (read : Reader α) : Reader β := fun s =>
  (read s).map fun (a, rest) => (f a, rest)

/-! ## Characters -/

/-- A blank inside a line. -/
def isBlank (c : Char) : Bool :=
  c == ' ' || c == '\t'

/-- A character that may stand in a comment: any but the control characters, and the tab. -/
def isPlain (c : Char) : Bool :=
  c == '\t' || (32 ≤ c.toNat && c.toNat != 127)

/-- A character of a bare word. -/
def isBare (c : Char) : Bool :=
  c.isAlphanum || c == '_' || c == '-'

/-- The value of a hexadecimal digit. -/
def hexValue? (c : Char) : Option Nat :=
  if '0' ≤ c ∧ c ≤ '9' then some (c.toNat - '0'.toNat)
  else if 'a' ≤ c ∧ c ≤ 'f' then some (c.toNat - 'a'.toNat + 10)
  else if 'A' ≤ c ∧ c ≤ 'F' then some (c.toNat - 'A'.toNat + 10)
  else none

/-! ## Escapes -/

/-- The character that a letter stands for after a backslash. -/
def escapedChar? (c : Char) : Option Char :=
  if c = 'b' then some (Char.ofNat 8)
  else if c = 't' then some '\t'
  else if c = 'n' then some '\n'
  else if c = 'f' then some (Char.ofNat 12)
  else if c = 'r' then some '\r'
  else if c = '"' then some '"'
  else if c = '\\' then some '\\'
  else none

/-- The character with a code in hexadecimal digits; surrogates are none. -/
def codedChar? (digits : List Char) : Option Char := do
  let values ← digits.mapM hexValue?
  let code := values.foldl (fun n d => n * 16 + d) 0
  if code.isValidChar then some (Char.ofNat code) else none

/-- Puts a character in front of what a reader has taken. -/
def consTaken (c : Char) : Option (List Char × List Char) → Option (List Char × List Char) :=
  Option.map fun (taken, rest) => (c :: taken, rest)

/-! ## Texts on one line -/

/-- The rest of a basic text, after its opening quote. -/
def readBasic : Reader (List Char)
  | [] => none
  | '"' :: s => some ([], s)
  | '\\' :: 'u' :: a :: b :: c :: d :: s =>
      match codedChar? [a, b, c, d] with
      | some x => consTaken x (readBasic s)
      | none => none
  | '\\' :: 'U' :: a :: b :: c :: d :: e :: f :: g :: h :: s =>
      match codedChar? [a, b, c, d, e, f, g, h] with
      | some x => consTaken x (readBasic s)
      | none => none
  | '\\' :: c :: s =>
      match escapedChar? c with
      | some x => consTaken x (readBasic s)
      | none => none
  | c :: s => if isPlain c then consTaken c (readBasic s) else none

/-- The rest of a literal text, after its opening quote. -/
def readLiteral : Reader (List Char)
  | [] => none
  | '\'' :: s => some ([], s)
  | c :: s => if isPlain c then consTaken c (readLiteral s) else none

/-- A text of one of the kinds that stay on one line. -/
def readOneLine : Reader String
  | '"' :: s => Reader.map String.ofList readBasic s
  | '\'' :: s => Reader.map String.ofList readLiteral s
  | _ => none

/-! ## Texts on several lines -/

/-- What a backslash at the end of a line does to the blanks after it. -/
inductive Trim where
  /-- Nothing is to be left out. -/
  | off
  /-- Blanks are left out up to the end of the line, which must come. -/
  | toLineEnd
  /-- Blanks and line ends are left out. -/
  | on
deriving DecidableEq

/-- Up to two quotes may stand in front of the three that close a text. -/
def closing (quote : Char) : List Char → List Char × List Char
  | a :: b :: s =>
      if a = quote then (if b = quote then ([quote, quote], s) else ([quote], b :: s))
      else ([], a :: b :: s)
  | [a] => if a = quote then ([quote], []) else ([], [a])
  | [] => ([], [])

/-- The rest of a basic text on several lines, after its opening quotes. -/
def readLongBasic : Trim → Reader (List Char)
  | _, [] => none
  | .toLineEnd, c :: s =>
      if isBlank c then readLongBasic .toLineEnd s
      else if c = '\n' then readLongBasic .on s
      else none
  | _, '"' :: '"' :: '"' :: s => some (closing '"' s)
  | _, '\\' :: 'u' :: a :: b :: c :: d :: s =>
      match codedChar? [a, b, c, d] with
      | some x => consTaken x (readLongBasic .off s)
      | none => none
  | _, '\\' :: 'U' :: a :: b :: c :: d :: e :: f :: g :: h :: s =>
      match codedChar? [a, b, c, d, e, f, g, h] with
      | some x => consTaken x (readLongBasic .off s)
      | none => none
  | _, '\\' :: c :: s =>
      if isBlank c then readLongBasic .toLineEnd s
      else if c = '\n' then readLongBasic .on s
      else
        match escapedChar? c with
        | some x => consTaken x (readLongBasic .off s)
        | none => none
  | trim, c :: s =>
      if trim = .on ∧ (isBlank c ∨ c = '\n') then readLongBasic .on s
      else if isPlain c || c == '\n' then consTaken c (readLongBasic .off s)
      else none

/-- The rest of a literal text on several lines, after its opening quotes. -/
def readLongLiteral : Reader (List Char)
  | [] => none
  | '\'' :: '\'' :: '\'' :: s => some (closing '\'' s)
  | c :: s => if isPlain c || c == '\n' then consTaken c (readLongLiteral s) else none

/-- A line end right after the opening quotes does not belong to the text. -/
def dropLineEnd : List Char → List Char
  | '\n' :: s => s
  | s => s

/-- A text of any kind. -/
def readQuoted : Reader String
  | '"' :: '"' :: '"' :: s => Reader.map String.ofList (readLongBasic .off) (dropLineEnd s)
  | '\'' :: '\'' :: '\'' :: s => Reader.map String.ofList readLongLiteral (dropLineEnd s)
  | s => readOneLine s

end ChargeController.Toml
