import ChargeController.Toml.Number

/-!
# Tables

A table gets its entries from keys, from dotted keys and from headers, in any order, but each table
is defined once and each entry is given once.  So a table remembers how it came about, and that
decides what may still be added to it.

* `descend` — a change inside a table that a path leads to.
* `insert` — a new entry.
-/

namespace ChargeController.Toml

/-- How a table came about. -/
inductive TableKind where
  /-- It has a header of its own, or is the whole document. -/
  | header
  /-- It was named on the way to another header, and may still get its own. -/
  | passed
  /-- It was named on the way to a key. -/
  | dotted
  /-- It is a value, complete as it stands. -/
  | inline
deriving DecidableEq

/-- A value or a table. -/
inductive Node where
  | text (value : String)
  | number (value : Number)
  | boolean (value : Bool)
  /-- A date or a time, as it is written. -/
  | moment (text : String)
  | array (items : List Node)
  | table (kind : TableKind) (entries : List (String × Node))
  /-- Tables under one repeated header, the latest first. -/
  | tables (latest : List (String × Node)) (earlier : List (List (String × Node)))

/-- The entries of a table, in the order in which they were given. -/
abbrev Entries := List (String × Node)

/-- The same entries with the value of a key changed. -/
def Entries.replace (entries : Entries) (key : String) (value : Node) : Entries :=
  entries.map fun entry => if entry.1 = key then (key, value) else entry

/-- A new entry, unless there is one of that name. -/
def Entries.insert? (entries : Entries) (key : String) (value : Node) : Option Entries :=
  match entries.lookup key with
  | none => some (entries ++ [(key, value)])
  | some _ => none

/-- Whether a path may lead on through a table.  The path of a key leads only through tables that
have no header. -/
def TableKind.isOpenTo (ofKey : Bool) : TableKind → Bool
  | header => !ofKey
  | passed => true
  | dotted => true
  | inline => false

/-- A change inside the table that a path leads to.  Missing tables are made, and repeated tables
stand for the latest of them. -/
def descend (ofKey : Bool) (change : TableKind → Entries → Option Entries) :
    TableKind → List String → Entries → Option Entries
  | kind, [], entries => change kind entries
  | _, key :: path, entries =>
      match entries.lookup key with
      | none => do
          let kind := if ofKey then TableKind.dotted else TableKind.passed
          let inner ← descend ofKey change kind path []
          return entries ++ [(key, .table kind inner)]
      | some (.table kind inner) => do
          guard (kind.isOpenTo ofKey)
          let inner ← descend ofKey change kind path inner
          return entries.replace key (.table kind inner)
      | some (.tables latest earlier) => do
          let latest ← descend ofKey change .header path latest
          return entries.replace key (.tables latest earlier)
      | some _ => none

/-- The value of a dotted key.  The table that the path leads to must have been made by such paths
alone. -/
def insert (path : List String) (key : String) (value : Node) (entries : Entries) :
    Option Entries :=
  match path with
  | [] => entries.insert? key value
  | _ =>
      descend true
        (fun kind inner => if kind = .dotted then inner.insert? key value else none)
        .header path entries

end ChargeController.Toml
