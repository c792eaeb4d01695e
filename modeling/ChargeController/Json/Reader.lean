import ChargeController.Json.Token

/-!
# Reading documents

Tokens are put together to a document by a second automaton.  The arrays and objects that are
still open stand on a stack, so nesting may be as deep as the text is long.

* `Json.ofText?` — the document that a text holds, if it holds exactly one.
-/

namespace ChargeController.Json

/-- An open array or object, its contents newest first. -/
inductive Frame where
  | array (items : List Json)
  | object (members : List (List Piece × Json)) (key : List Piece)

/-- What has been read and what may follow. -/
inductive Progress where
  /-- A value must follow. -/
  | value (frames : List Frame)
  /-- An array was just opened: an item or its end must follow. -/
  | arrayStart (frames : List Frame)
  /-- An object was just opened: a key or its end must follow. -/
  | objectStart (frames : List Frame)
  /-- A comma or the end of the array must follow. -/
  | afterItem (frames : List Frame) (items : List Json)
  /-- A comma or the end of the object must follow. -/
  | afterMember (frames : List Frame) (members : List (List Piece × Json))
  /-- A key must follow. -/
  | key (frames : List Frame) (members : List (List Piece × Json))
  /-- A colon must follow. -/
  | colon (frames : List Frame) (members : List (List Piece × Json)) (key : List Piece)
  /-- The document is complete, and nothing may follow. -/
  | complete (document : Json)

namespace Progress

/-- A value is complete: it goes into the innermost open array or object. -/
def place : List Frame → Json → Progress
  | [], v => .complete v
  | .array items :: frames, v => .afterItem frames (v :: items)
  | .object members k :: frames, v => .afterMember frames ((k, v) :: members)

/-- The three words that are values. -/
def word? (letters : List Char) : Option Json :=
  if letters = ['n', 'u', 'l', 'l'] then some .null
  else if letters = ['t', 'r', 'u', 'e'] then some (.boolean true)
  else if letters = ['f', 'a', 'l', 's', 'e'] then some (.boolean false)
  else none

/-- A token where a value must follow. -/
def beginValue (frames : List Frame) : Token → Option Progress
  | .word letters => (word? letters).map (place frames)
  | .numeral n => some (place frames (.number n))
  | .string pieces => some (place frames (.string pieces))
  | .openArray => some (.arrayStart frames)
  | .openObject => some (.objectStart frames)
  | _ => none

/-- Reads one more token. -/
def step : Progress → Token → Option Progress
  | .value frames, t => beginValue frames t
  | .arrayStart frames, .closeArray => some (place frames (.array []))
  | .arrayStart frames, t => beginValue (.array [] :: frames) t
  | .objectStart frames, .closeObject => some (place frames (.object []))
  | .objectStart frames, .string k => some (.colon frames [] k)
  | .afterItem frames items, .comma => some (.value (.array items :: frames))
  | .afterItem frames items, .closeArray => some (place frames (.array items.reverse))
  | .afterMember frames members, .comma => some (.key frames members)
  | .afterMember frames members, .closeObject => some (place frames (.object members.reverse))
  | .key frames members, .string k => some (.colon frames members k)
  | .colon frames members k, .colon => some (.value (.object members k :: frames))
  | _, _ => none

/-- The document, if it is complete. -/
def document? : Progress → Option Json
  | .complete v => some v
  | _ => none

end Progress

/-- The document made of the given tokens. -/
def ofTokens? (tokens : List Token) : Option Json :=
  (tokens.foldlM Progress.step (.value [])).bind Progress.document?

/-- The document that a text holds. -/
def ofText? (text : String) : Option Json :=
  (Token.ofText? text).bind ofTokens?

end ChargeController.Json
