import ChargeController.Toml.Value

/-!
# TOML documents

A document is a row of lines: pairs of a key and a value, headers of tables, and headers of
repeated tables.  Each line is carried out on the tables that the lines before it have made.

* `readLines` — the lines of a text.
* `ofText?` — the entries of a document.
-/

namespace ChargeController.Toml

/-- One line of a document. -/
inductive Line where
  | pair (path : List String) (key : String) (value : Node)
  | header (path : List String) (key : String)
  | repeatedHeader (path : List String) (key : String)

/-! ## Lines of text -/

/-- Drops a mark in front of the whole text, and the carriage returns in front of line feeds. -/
def unifyLines : List Char → List Char
  | '\r' :: '\n' :: s => '\n' :: unifyLines s
  | c :: s => c :: unifyLines s
  | [] => []

/-- Drops a byte order mark. -/
def dropMark : List Char → List Char
  | c :: s => if c.toNat = 0xFEFF then s else c :: s
  | [] => []

/-- What follows the end of a line, which may have blanks and a comment before it. -/
def skipLineEnd (s : List Char) : Option (List Char) :=
  let s :=
    match skipBlanks s with
    | '#' :: s => s.dropWhile isPlain
    | s => s
  match s with
  | [] => some []
  | '\n' :: s => some s
  | _ => none

/-- A line, from its first character that is no blank; empty lines are none. -/
def readLine : Reader (Option Line)
  | '[' :: '[' :: s => do
      let ((path, key), s) ← readKey s
      match s with
      | ']' :: ']' :: s => return (some (.repeatedHeader path key), ← skipLineEnd s)
      | _ => none
  | '[' :: s => do
      let ((path, key), s) ← readKey s
      match s with
      | ']' :: s => return (some (.header path key), ← skipLineEnd s)
      | _ => none
  | '#' :: s => do return (none, ← skipLineEnd ('#' :: s))
  | '\n' :: s => some (none, s)
  | s => do
      let ((path, key, node), s) ← readPair (readValue (maxDepth - 1)) s
      return (some (.pair path key node), ← skipLineEnd s)

/-- At most so many lines, up to the end of the text. -/
def readLines : Nat → List Char → Option (List Line)
  | limit, s =>
      match limit, skipBlanks s with
      | _, [] => some []
      | 0, _ => none
      | limit + 1, s => do
          let (line, s) ← readLine s
          let lines ← readLines limit s
          return line.toList ++ lines

/-! ## Tables of a document -/

/-- A header of its own for a table that had none. -/
def openTable (key : String) (entries : Entries) : Option Entries :=
  match entries.lookup key with
  | none => some (entries ++ [(key, .table .header [])])
  | some (.table .passed inner) => some (entries.replace key (.table .header inner))
  | some _ => none

/-- One more table under a repeated header. -/
def openRepeated (key : String) (entries : Entries) : Option Entries :=
  match entries.lookup key with
  | none => some (entries ++ [(key, .tables [] [])])
  | some (.tables latest earlier) => some (entries.replace key (.tables [] (latest :: earlier)))
  | some _ => none

/-- The tables so far, and the path of the table that pairs go to. -/
structure State where
  entries : Entries
  current : List String

/-- Carries out one line. -/
def State.step (s : State) : Line → Option State
  | .pair path key value => do
      let entries ← descend false (fun _ inner => insert path key value inner) .header s.current
        s.entries
      return { s with entries }
  | .header path key => do
      let entries ← descend false (fun _ inner => openTable key inner) .header path s.entries
      return ⟨entries, path ++ [key]⟩
  | .repeatedHeader path key => do
      let entries ← descend false (fun _ inner => openRepeated key inner) .header path s.entries
      return ⟨entries, path ++ [key]⟩

/-- The entries of the document that a text holds. -/
def ofText? (text : String) : Option Entries := do
  let s := unifyLines (dropMark text.toList)
  let lines ← readLines (s.length + 1) s
  let state ← lines.foldlM State.step ⟨[], []⟩
  return state.entries

end ChargeController.Toml
