import ChargeController.Text.Numbered

/-!
# Quoted text

How a message shows a text that somebody typed: between double quotes, with the quote and the
backslash escaped, four controls as letters, and characters that cannot be shown by their number.
Quoted text therefore never breaks a line and never hides a character.
-/

namespace ChargeController.Text

/-- A character by its number, in braces. -/
def byNumber (c : Char) : List Char :=
  ['\\', 'u', '\x7b'] ++ Nat.toDigits 16 c.toNat ++ ['\x7d']

/-- The characters that stand for one character between quotes. -/
def shown (c : Char) : List Char :=
  if c = '"' then ['\\', '"']
  else if c = '\\' then ['\\', '\\']
  else if c = '\n' then ['\\', 'n']
  else if c = '\r' then ['\\', 'r']
  else if c = '\t' then ['\\', 't']
  else if c.toNat = 0 then ['\\', '0']
  else if isNumbered c then byNumber c
  else [c]

/-- A text between double quotes. -/
def quoted (s : String) : String :=
  "\"" ++ String.ofList (s.toList.flatMap shown) ++ "\""

end ChargeController.Text
