import ChargeController.Json.Value

/-!
# The tokens of a document

The text of a document is read one character at a time by an automaton: between tokens, inside a
word or a numeral, or inside a string and its escapes.  Tokens that touch, such as a numeral that
runs into a word, are separated here and refused when the document is put together.

* `Token.ofText?` — the tokens of a text, if every character belongs to one.
-/

namespace ChargeController

namespace Numeral

/-- Splits a row of characters after its leading decimal digits. -/
def splitDigits (s : List Char) : List Char × List Char :=
  (s.takeWhile Char.isDigit, s.dropWhile Char.isDigit)

/-- The digits of an exponent, after its mark. -/
def readExponent (s : List Char) : Option (Bool × List Char) :=
  let (negative, rest) :=
    match s with
    | '-' :: rest => (true, rest)
    | '+' :: rest => (false, rest)
    | _ => (false, s)
  if rest.isEmpty || !rest.all Char.isDigit then none else some (negative, rest)

/-- What follows the whole digits and the fraction of a numeral. -/
def readTail (negative : Bool) (whole : List Char) (fraction : Option (List Char)) :
    List Char → Option Numeral
  | [] => some { negative, whole, fraction }
  | c :: rest =>
      if c = 'e' ∨ c = 'E' then
        (readExponent rest).map fun e => { negative, whole, fraction, exponent := some e }
      else none

/-- Reads what follows the sign: no leading zeros, and a digit on both sides of a point. -/
def readMagnitude (negative : Bool) (s : List Char) : Option Numeral :=
  match splitDigits s with
  | ([], _) => none
  | ('0' :: _ :: _, _) => none
  | (whole, '.' :: rest) =>
      match splitDigits rest with
      | ([], _) => none
      | (fraction, rest) => readTail negative whole (some fraction) rest
  | (whole, rest) => readTail negative whole none rest

/-- Reads a numeral. -/
def ofChars? : List Char → Option Numeral
  | '-' :: rest => readMagnitude true rest
  | s => readMagnitude false s

end Numeral

/-- The parts that the text of a document consists of. -/
inductive Token where
  | openArray
  | closeArray
  | openObject
  | closeObject
  | comma
  | colon
  | word (letters : List Char)
  | numeral (value : Numeral)
  | string (pieces : List Piece)
deriving DecidableEq

namespace Token

/-- Where the automaton stands.  What has been seen of the current token is kept newest first. -/
inductive Mode where
  | between
  | word (seen : List Char)
  | numeral (seen : List Char)
  | string (seen : List Piece)
  | escape (seen : List Piece)
  /-- Inside the four digits of a unit: the value so far and how many digits are missing. -/
  | unit (seen : List Piece) (value missing : Nat)

/-- The tokens so far, newest first, and where the automaton stands. -/
structure Scan where
  tokens : List Token := []
  mode : Mode := .between

/-- The blanks between tokens. -/
def isGap (c : Char) : Bool :=
  c == ' ' || c == '\t' || c == '\n' || c == '\r'

/-- The characters that a numeral may consist of. -/
def isNumeralChar (c : Char) : Bool :=
  c.isDigit || c == '-' || c == '+' || c == '.' || c == 'e' || c == 'E'

/-- The characters that a word may consist of. -/
def isWordChar (c : Char) : Bool :=
  'a' ≤ c && c ≤ 'z'

/-- The tokens of a single character. -/
def punctuation? (c : Char) : Option Token :=
  if c = '[' then some .openArray
  else if c = ']' then some .closeArray
  else if c = '\x7b' then some .openObject
  else if c = '\x7d' then some .closeObject
  else if c = ',' then some .comma
  else if c = ':' then some .colon
  else none

/-- The first character of a token, or a gap. -/
def Scan.start (tokens : List Token) (c : Char) : Option Scan :=
  if isGap c then some { tokens }
  else if c = '"' then some { tokens, mode := .string [] }
  else if c = '-' ∨ c.isDigit then some { tokens, mode := .numeral [c] }
  else if isWordChar c then some { tokens, mode := .word [c] }
  else (punctuation? c).map fun t => { tokens := t :: tokens }

/-- The character that a letter stands for after a backslash. -/
def unescape? (c : Char) : Option Char :=
  if c = '"' ∨ c = '\\' ∨ c = '/' then some c
  else if c = 'b' then some (Char.ofNat 8)
  else if c = 'f' then some (Char.ofNat 12)
  else if c = 'n' then some '\n'
  else if c = 'r' then some '\r'
  else if c = 't' then some '\t'
  else none

/-- The value of a hexadecimal digit. -/
def hexValue? (c : Char) : Option Nat :=
  if c.isDigit then some (c.toNat - '0'.toNat)
  else if 'a' ≤ c ∧ c ≤ 'f' then some (c.toNat - 'a'.toNat + 10)
  else if 'A' ≤ c ∧ c ≤ 'F' then some (c.toNat - 'A'.toNat + 10)
  else none

/-- Reads one more character. -/
def Scan.step (s : Scan) (c : Char) : Option Scan :=
  match s.mode with
  | .between => Scan.start s.tokens c
  | .word seen =>
      if isWordChar c then some { s with mode := .word (c :: seen) }
      else Scan.start (.word seen.reverse :: s.tokens) c
  | .numeral seen =>
      if isNumeralChar c then some { s with mode := .numeral (c :: seen) }
      else (Numeral.ofChars? seen.reverse).bind fun n => Scan.start (.numeral n :: s.tokens) c
  | .string seen =>
      if c = '"' then some { tokens := .string seen.reverse :: s.tokens }
      else if c = '\\' then some { s with mode := .escape seen }
      else if c.toNat < 32 then none
      else some { s with mode := .string (.char c :: seen) }
  | .escape seen =>
      if c = 'u' then some { s with mode := .unit seen 0 4 }
      else (unescape? c).map fun d => { s with mode := .string (.char d :: seen) }
  | .unit seen value missing =>
      (hexValue? c).map fun d =>
        let value := value * 16 + d
        if missing ≤ 1 then { s with mode := .string (.unit value :: seen) }
        else { s with mode := .unit seen value (missing - 1) }

/-- The tokens at the end of the text; a string must have been closed. -/
def Scan.finish (s : Scan) : Option (List Token) :=
  match s.mode with
  | .between => some s.tokens.reverse
  | .word seen => some (.word seen.reverse :: s.tokens).reverse
  | .numeral seen =>
      (Numeral.ofChars? seen.reverse).map fun n => (.numeral n :: s.tokens).reverse
  | _ => none

/-- The tokens of a text. -/
def ofText? (text : String) : Option (List Token) :=
  (text.toList.foldlM Scan.step {}).bind Scan.finish

end Token

end ChargeController
