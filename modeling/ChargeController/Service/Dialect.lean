import ChargeController.Settings.Battery
import ChargeController.Toml.Document

/-!
# Dialects of configuration files

A configuration file is a JSON document or a TOML document.  Sections and keys are the same in
both; how single values are read, and how strictly, is up to the dialect.

* `Dialect.json`, `Dialect.toml` — the two dialects.
-/

namespace ChargeController

/-- How the values of a kind of document are read. -/
structure Dialect (Value : Type) where
  /-- Whether a value says that there is none. -/
  isNull : Value → Bool
  text? : Value → Option String
  boolean? : Value → Option Bool
  /-- An unsigned integer below a limit. -/
  natural? : (limit : Nat) → Value → Option Nat
  /-- The name of one of several choices. -/
  choice? : Value → Option String
  /-- The values of a section by key.  A section may be written as a row of values in the order of
  its keys, which must not end early if it is to be complete. -/
  sectionOf? : (keys : List String) → (complete : Bool) → Value → Option (String → Option Value)

namespace Dialect

/-! ## JSON -/

/-- A row of values; there must be no more of them than keys. -/
def jsonRow? (keys : List String) (complete : Bool) (items : List Json) :
    Option (String → Option Json) :=
  if items.length = keys.length ∨ (items.length < keys.length ∧ complete = false) then
    some fun key => (keys.zip items).lookup key
  else none

/-- A section of a JSON document. -/
def jsonSection? (keys : List String) (complete : Bool) : Json → Option (String → Option Json)
  | .object members => Json.memberFields? keys members
  | .array items => jsonRow? keys complete items
  | _ => none

/-- How JSON documents are read. -/
def json : Dialect Json where
  isNull
    | .null => true
    | _ => false
  text? := Json.text?
  boolean? := Json.boolean?
  natural? := Json.natural?
  choice? := Json.variant?
  sectionOf? := jsonSection?

/-! ## TOML -/

/-- A text. -/
def tomlText? : Toml.Node → Option String
  | .text s => some s
  | _ => none

/-- A truth value. -/
def tomlBoolean? : Toml.Node → Option Bool
  | .boolean b => some b
  | _ => none

/-- An unsigned integer below a limit. -/
def tomlNatural? (limit : Nat) : Toml.Node → Option Nat
  | .number (.integer i) => if 0 ≤ i ∧ i < limit then some i.toNat else none
  | _ => none

/-- Whether a table or an array is empty. -/
def tomlIsEmpty : Toml.Node → Bool
  | .table _ [] => true
  | .array [] => true
  | _ => false

/-- The name of a choice: a text, or a table whose one entry is empty. -/
def tomlChoice? : Toml.Node → Option String
  | .text s => some s
  | .table _ [(key, value)] => if tomlIsEmpty value then some key else none
  | _ => none

/-- A row of values; more of them than keys do no harm. -/
def tomlRow? (keys : List String) (complete : Bool) (items : List Toml.Node) :
    Option (String → Option Toml.Node) :=
  if complete && items.length < keys.length then none
  else some fun key => (keys.zip items).lookup key

/-- A section of a TOML document.  A date or a time counts as a section without any known key. -/
def tomlSection? (keys : List String) (complete : Bool) :
    Toml.Node → Option (String → Option Toml.Node)
  | .table _ entries => some fun key => entries.lookup key
  | .tables latest earlier =>
      tomlRow? keys complete ((latest :: earlier).reverse.map (.table .header))
  | .array items => tomlRow? keys complete items
  | .moment _ => some fun _ => none
  | _ => none

/-- How TOML documents are read. -/
def toml : Dialect Toml.Node where
  isNull _ := false
  text? := tomlText?
  boolean? := tomlBoolean?
  natural? := tomlNatural?
  choice? := tomlChoice?
  sectionOf? := tomlSection?

end Dialect

end ChargeController
