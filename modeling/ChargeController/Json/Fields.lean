import ChargeController.Json.Amount

/-!
# Reading values out of documents

Readers for the kinds of value that records consist of, and for the records themselves.  A record
is written as an object, in any order and with members that nobody asks for, or as an array of
its fields in their own order.

* `Json.fields?` — the fields of a record by name; a field given twice is refused.
* `Json.wholeFields?` — the fields of a record whose every member must be readable.
* `Fields.required`, `Fields.optional`, `Fields.withDefault` — what a missing field means.
* `Json.isReadable` — every string and every number in a document has a value.
-/

namespace ChargeController

namespace Json

/-! ## Single values -/

/-- A text. -/
def text? : Json → Option String
  | .string pieces => Piece.text? pieces
  | _ => none

/-- One of the two truth values. -/
def boolean? : Json → Option Bool
  | .boolean b => some b
  | _ => none

/-- The value of a number. -/
def amount? : Json → Option Amount
  | .number n => Amount.ofNumeral? n
  | _ => none

/-- An unsigned integer below `limit`. -/
def natural? (limit : Nat) (v : Json) : Option Nat :=
  match v.amount? with
  | some (.natural n) => if n < limit then some n else none
  | _ => none

/-- A 64-bit signed integer. -/
def integer? (v : Json) : Option Int :=
  match v.amount? with
  | some (.natural n) => if n < UInt64.size / 2 then some n else none
  | some (.negative i) => some i
  | _ => none

/-- A float of the given format, from any number. -/
def binary? (f : Format) (v : Json) : Option (Binary f) :=
  v.amount?.map (Amount.toBinary f)

/-- A 32-bit float. -/
def single? (v : Json) : Option Single :=
  v.binary? Format.single

/-- A 64-bit float. -/
def double? (v : Json) : Option Double :=
  v.binary? Format.double

/-- An unsigned 16-bit integer. -/
def word? (v : Json) : Option UInt16 :=
  (v.natural? UInt16.size).map UInt16.ofNat

/-- A value that may be null. -/
def orNull {α : Type} (read : Json → Option α) : Json → Option (Option α)
  | .null => some none
  | v => (read v).map some

/-! ## Whole documents -/

mutual

/-- How deeply arrays and objects are nested. -/
def depth : Json → Nat
  | .array items => depthOfItems items + 1
  | .object members => depthOfMembers members + 1
  | _ => 0

/-- The depth of the deepest item. -/
def depthOfItems : List Json → Nat
  | [] => 0
  | item :: rest => max (depth item) (depthOfItems rest)

/-- The depth of the deepest member. -/
def depthOfMembers : List (List Piece × Json) → Nat
  | [] => 0
  | (_, value) :: rest => max (depth value) (depthOfMembers rest)

end

mutual

/-- Every string of a document has a text, and every number a value. -/
def isReadable : Json → Bool
  | .number n => (Amount.ofNumeral? n).isSome
  | .string pieces => (Piece.decode pieces).isSome
  | .array items => areReadable items
  | .object members => membersReadable members
  | _ => true

/-- Every item is readable. -/
def areReadable : List Json → Bool
  | [] => true
  | item :: rest => isReadable item && areReadable rest

/-- Every member is readable, and so is its key. -/
def membersReadable : List (List Piece × Json) → Bool
  | [] => true
  | (key, value) :: rest =>
      (Piece.decode key).isSome && isReadable value && membersReadable rest

end

end Json

/-! ## Records -/

/-- The fields of a record that are present. -/
abbrev Fields := String → Option Json

namespace Json

/-- The fields of an object.  Every key must have a text, and no field of the record may be given
twice. -/
def memberFields? (names : List String) (members : List (List Piece × Json)) : Option Fields := do
  let members ← members.mapM fun (key, value) => (Piece.text? key).map (·, value)
  guard (names.all fun name => members.countP (·.1 == name) ≤ 1)
  return fun name => members.lookup name

/-- The fields of a record with the given names. -/
def fields? (names : List String) : Json → Option Fields
  | .object members => memberFields? names members
  | .array items =>
      if items.length ≤ names.length then some fun name => (names.zip items).lookup name
      else none
  | _ => none

/-- How deeply a record may be nested whose members are all read. -/
def maxDepth : Nat := 127

/-- The fields of a record that is read to its last member.  It must be an object, and its members
must be readable even if nobody asks for them. -/
def wholeFields? (names : List String) : Json → Option Fields
  | .object members =>
      if (Json.object members).isReadable && (Json.object members).depth ≤ maxDepth then
        memberFields? names members
      else none
  | _ => none

end Json

namespace Fields

variable {α : Type}

/-- A field that must be there. -/
def required (fields : Fields) (name : String) (read : Json → Option α) : Option α :=
  (fields name).bind read

/-- A field that may be missing or null. -/
def optional (fields : Fields) (name : String) (read : Json → Option α) : Option (Option α) :=
  match fields name with
  | none => some none
  | some v => v.orNull read

/-- A field with a value of its own when it is missing. -/
def withDefault (fields : Fields) (name : String) (value : α) (read : Json → Option α) :
    Option α :=
  match fields name with
  | none => some value
  | some v => read v

end Fields

end ChargeController
