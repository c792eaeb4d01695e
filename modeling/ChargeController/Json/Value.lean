import ChargeController.Decimal.Layout
import ChargeController.Text.Padded

/-!
# Documents

A document as it is written: numbers are numerals and strings are rows of pieces, so that a
reader who has no use for a member never asks for its value.  A string has a text only if its
surrogate escapes come in pairs, and a numeral has a value only if that value is in range; a
document with neither is still a document.

* `Piece.text?` — the text of a string.
* `Json.render` — the document without any white space.
-/

namespace ChargeController

/-- One element of a written string: a character, or a 16-bit unit given by its number. -/
inductive Piece where
  | char (c : Char)
  | unit (code : Nat)
deriving DecidableEq

namespace Piece

/-- The first of a pair of surrogates. -/
def isHighSurrogate (code : Nat) : Bool :=
  0xD800 ≤ code && code < 0xDC00

/-- The second of a pair of surrogates. -/
def isLowSurrogate (code : Nat) : Bool :=
  0xDC00 ≤ code && code < 0xE000

/-- The characters of a row of pieces, if every surrogate has its partner. -/
def decode : List Piece → Option (List Char)
  | [] => some []
  | .char c :: rest => (decode rest).map (c :: ·)
  | .unit a :: .unit b :: rest =>
      if isHighSurrogate a then
        if isLowSurrogate b then
          (decode rest).map (Char.ofNat (0x10000 + (a - 0xD800) * 0x400 + (b - 0xDC00)) :: ·)
        else none
      else if isLowSurrogate a then none
      else (decode (.unit b :: rest)).map (Char.ofNat a :: ·)
  | .unit a :: rest =>
      if isHighSurrogate a || isLowSurrogate a then none
      else (decode rest).map (Char.ofNat a :: ·)

/-- The text of a row of pieces. -/
def text? (pieces : List Piece) : Option String :=
  (decode pieces).map String.ofList

/-- The pieces of a text. -/
def ofText (s : String) : List Piece :=
  s.toList.map .char

end Piece

/-- A document. -/
inductive Json where
  | null
  | boolean (value : Bool)
  | number (numeral : Numeral)
  | string (pieces : List Piece)
  | array (items : List Json)
  | object (members : List (List Piece × Json))

namespace Json

/-! ## Making documents -/

/-- The document of a text. -/
def ofText (s : String) : Json :=
  .string (Piece.ofText s)

/-- The document of an integer. -/
def ofInt (i : Int) : Json :=
  .number (Numeral.ofInt i)

/-- The document of a natural number. -/
def ofNat (n : Nat) : Json :=
  ofInt n

/-- An object with the given members, in this order. -/
def ofMembers (members : List (String × Json)) : Json :=
  .object (members.map fun m => (Piece.ofText m.1, m.2))

/-- The document of a float; what is no finite number is null. -/
def ofBinary (l : Layout) {f : Format} : Binary f → Json
  | .finite negative units _ => .number (l.numeral f negative units)
  | _ => .null

/-- The document of a 32-bit float. -/
def ofSingle (x : Single) : Json :=
  ofBinary Layout.document x

/-- The document of a 64-bit float. -/
def ofDouble (x : Double) : Json :=
  ofBinary Layout.wideDocument x

/-! ## Writing documents -/

/-- The characters that stand for one character inside a written string. -/
def escaped (c : Char) : List Char :=
  if c = '"' then ['\\', '"']
  else if c = '\\' then ['\\', '\\']
  else if c = '\n' then ['\\', 'n']
  else if c = '\r' then ['\\', 'r']
  else if c = '\t' then ['\\', 't']
  else if c.toNat = 8 then ['\\', 'b']
  else if c.toNat = 12 then ['\\', 'f']
  else if c.toNat < 32 then ['\\', 'u'] ++ Text.padLeft 4 (Nat.toDigits 16 c.toNat)
  else [c]

/-- One piece as it is written. -/
def pieceChars : Piece → List Char
  | .char c => escaped c
  | .unit code => ['\\', 'u'] ++ Text.padLeft 4 (Nat.toDigits 16 code)

/-- A written string. -/
def quoted (pieces : List Piece) : String :=
  "\"" ++ String.ofList (pieces.flatMap pieceChars) ++ "\""

mutual

/-- The text of a document. -/
def render : Json → String
  | .null => "null"
  | .boolean value => if value then "true" else "false"
  | .number numeral => numeral.text
  | .string pieces => quoted pieces
  | .array items => "[" ++ ",".intercalate (renderItems items) ++ "]"
  | .object members => "\x7b" ++ ",".intercalate (renderMembers members) ++ "\x7d"

/-- The texts of the items of an array. -/
def renderItems : List Json → List String
  | [] => []
  | item :: rest => render item :: renderItems rest

/-- The texts of the members of an object. -/
def renderMembers : List (List Piece × Json) → List String
  | [] => []
  | (key, value) :: rest => (quoted key ++ ":" ++ render value) :: renderMembers rest

end

end Json

end ChargeController
