import ChargeController.Toml.Moment
import ChargeController.Toml.Table

/-!
# Values in TOML

Besides texts, numbers, truth values and moments there are arrays, which may run over several
lines and hold comments, and inline tables, which may not.  Both are nested to a limited depth,
and so are dotted keys.

* `readKey` — a dotted key.
* `readValue` — a value, up to a depth.
-/

namespace ChargeController.Toml

/-- Keys have fewer parts than this, and values are nested less deeply. -/
def maxDepth : Nat := 80

/-! ## Blanks -/

/-- What follows the blanks. -/
def skipBlanks (s : List Char) : List Char :=
  s.dropWhile isBlank

/-- What follows blanks, line ends and comments. -/
def skipFiller : (inComment : Bool) → List Char → List Char
  | _, [] => []
  | inComment, c :: s =>
      if c = '\n' then skipFiller false s
      else if inComment then (if isPlain c then skipFiller true s else c :: s)
      else if isBlank c then skipFiller false s
      else if c = '#' then skipFiller true s
      else c :: s

/-! ## Keys -/

/-- One part of a key. -/
def readPart (s : List Char) : Option (String × List Char) :=
  match readOneLine s with
  | some part => some part
  | none =>
      let word := s.takeWhile isBare
      if word.isEmpty then none else some (String.ofList word, s.dropWhile isBare)

/-- The parts of a key, with points between them and blanks around each, within a number of
parts. -/
def readParts : Nat → Reader (List String)
  | 0, _ => none
  | limit + 1, s => do
      let (part, s) ← readPart (skipBlanks s)
      match skipBlanks s with
      | '.' :: s =>
          let (parts, s) ← readParts limit s
          return (part :: parts, s)
      | s => return ([part], s)

/-- A dotted key: the path to a table, and the key in it. -/
def readKey (s : List Char) : Option ((List String × String) × List Char) := do
  let (parts, s) ← readParts (maxDepth - 1) s
  let key ← parts.getLast?
  return ((parts.dropLast, key), s)

/-- A dotted key and its value. -/
def readPair (value : Reader Node) (s : List Char) :
    Option ((List String × String × Node) × List Char) := do
  let ((path, key), s) ← readKey s
  match s with
  | '=' :: s =>
      let (node, s) ← value (skipBlanks s)
      return ((path, key, node), skipBlanks s)
  | _ => none

/-! ## Values -/

/-- The items of an array and its closing bracket, at most so many. -/
def readItems (value : Reader Node) : Nat → Reader (List Node)
  | 0, _ => none
  | more + 1, s =>
      match skipFiller false s with
      | ']' :: s => some ([], s)
      | s => do
          let (item, s) ← value s
          match skipFiller false s with
          | ',' :: s => Reader.map (item :: ·) (readItems value more) s
          | ']' :: s => return ([item], s)
          | _ => none

/-- The pairs of an inline table, of which there is at least one and at most so many, and its
closing brace. -/
def readPairs (value : Reader Node) : Nat → Reader (List (List String × String × Node))
  | 0, _ => none
  | more + 1, s => do
      let (pair, s) ← readPair value s
      match s with
      | ',' :: s => Reader.map (pair :: ·) (readPairs value more) s
      | '\x7d' :: s => return ([pair], s)
      | _ => none

/-- The pairs of an inline table and its closing brace. -/
def readInline (value : Reader Node) (s : List Char) : Option (Entries × List Char) := do
  let (pairs, s) ←
    match skipBlanks s with
    | '\x7d' :: s => some ([], s)
    | s => readPairs value s.length s
  let entries ← pairs.foldlM (fun entries (path, key, node) => insert path key node entries) []
  return (entries, s)

/-- A value that is neither an array nor a table. -/
def readSimple : Reader Node
  | 't' :: 'r' :: 'u' :: 'e' :: s => some (.boolean true, s)
  | 'f' :: 'a' :: 'l' :: 's' :: 'e' :: s => some (.boolean false, s)
  | s =>
      (Reader.map .text readQuoted s)
        <|> (Reader.map .moment readMoment s)
        <|> (Reader.map .number readNumber s)

/-- A value with arrays and tables nested at most so deeply. -/
def readValue : Nat → Reader Node
  | 0, s => readSimple s
  | depth + 1, '[' :: s => Reader.map .array (readItems (readValue depth) s.length) s
  | depth + 1, '\x7b' :: s => Reader.map (.table .inline) (readInline (readValue depth)) s
  | _ + 1, s => readSimple s

end ChargeController.Toml
