/-!
# Reading integers

Unsigned integers of a bounded size in a given base, as they are typed by people and passed in
environment variables: an optional plus sign and one or more digits, leading zeros allowed.  The
reader goes from left to right and stops at the first fault.
-/

namespace ChargeController.Text

/-- Why a text is no integer of the wanted size. -/
inductive IntegerFault where
  | empty
  | invalidDigit
  | tooLarge
deriving DecidableEq

/-- The wording of a fault. -/
def IntegerFault.message : IntegerFault → String
  | .empty => "cannot parse integer from empty string"
  | .invalidDigit => "invalid digit found in string"
  | .tooLarge => "number too large to fit in target type"

/-- The value of a digit, letters of either case standing for ten and up; only digits of the base
have one. -/
def digitValue? (base : Nat) (c : Char) : Option Nat :=
  let value? :=
    if '0' ≤ c ∧ c ≤ '9' then some (c.toNat - '0'.toNat)
    else if 'a' ≤ c ∧ c ≤ 'z' then some (c.toNat - 'a'.toNat + 10)
    else if 'A' ≤ c ∧ c ≤ 'Z' then some (c.toNat - 'A'.toNat + 10)
    else none
  value?.filter (· < base)

/-- Continues the value `n` by a row of digits; the result stays below `limit`. -/
def readDigits (base limit : Nat) (n : Nat) : List Char → Except IntegerFault Nat
  | [] => .ok n
  | c :: s =>
      match digitValue? base c with
      | none => .error .invalidDigit
      | some d =>
          if n * base + d < limit then readDigits base limit (n * base + d) s
          else .error .tooLarge

/-- Reads an unsigned integer below `limit`. -/
def readUnsigned (base limit : Nat) : List Char → Except IntegerFault Nat
  | [] => .error .empty
  | ['+'] => .error .invalidDigit
  | '+' :: s => readDigits base limit 0 s
  | s => readDigits base limit 0 s

/-- Reads a decimal unsigned integer below `limit`, without a reason for refusal. -/
def decimal? (limit : Nat) (s : String) : Option Nat :=
  (readUnsigned 10 limit s.toList).toOption

end ChargeController.Text
