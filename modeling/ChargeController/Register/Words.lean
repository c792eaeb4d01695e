import ChargeController.Register.Fault

/-!
# Words and bytes

Registers are 16-bit words and travel as two bytes, the high one first.  Switches travel eight to
a byte, the first one lowest.
-/

namespace ChargeController

/-- Bytes as they travel on the bus. -/
abbrev Bytes := List UInt8

namespace Register

/-- The word made of a high and a low byte. -/
def word (high low : UInt8) : UInt16 :=
  high.toUInt16 * 256 + low.toUInt16

/-- The two bytes of a word, the high one first. -/
def wordBytes (w : UInt16) : Bytes :=
  [(w / 256).toUInt8, w.toUInt8]

/-- The bytes of a row of words. -/
def bytesOfWords (words : List UInt16) : Bytes :=
  words.flatMap wordBytes

/-- The words at the front of a row of bytes; a byte left over at the end belongs to none. -/
def leadingWords : Bytes → List UInt16
  | high :: low :: rest => word high low :: leadingWords rest
  | _ => []

theorem word_wordBytes (w : UInt16) : word (w / 256).toUInt8 w.toUInt8 = w := by
  apply UInt16.toNat_inj.mp
  have h : w.toNat < 65536 := w.toNat_lt
  simp only [word, UInt16.toNat_add, UInt16.toNat_mul, UInt8.toNat_toUInt16, UInt16.toNat_toUInt8,
    UInt16.toNat_div, UInt16.toNat_ofNat, Nat.reducePow, Nat.reduceMod]
  omega

theorem length_bytesOfWords (words : List UInt16) :
    (bytesOfWords words).length = 2 * words.length := by
  induction words with
  | nil => rfl
  | cons w rest ih =>
      simp only [bytesOfWords, wordBytes, List.flatMap_cons, List.length_append, List.length_cons,
        List.length_nil] at ih ⊢
      omega

/-- Words read back from their bytes. -/
theorem leadingWords_bytesOfWords (words : List UInt16) :
    leadingWords (bytesOfWords words) = words := by
  induction words with
  | nil => rfl
  | cons w rest ih =>
      simp only [bytesOfWords, wordBytes, List.flatMap_cons, List.cons_append, List.nil_append,
        leadingWords, word_wordBytes, List.cons.injEq, true_and] at ih ⊢
      exact ih

/-- The words of a whole payload. -/
def wordsOfBytes (data : Bytes) : Except RegisterFault (List UInt16) :=
  if data.length % 2 = 0 then .ok (leadingWords data) else .error (.oddLength data.length)

theorem wordsOfBytes_bytesOfWords (words : List UInt16) :
    wordsOfBytes (bytesOfWords words) = .ok words := by
  rw [wordsOfBytes, length_bytesOfWords, if_pos (Nat.mul_mod_right 2 _),
    leadingWords_bytesOfWords]

theorem wordsOfBytes_of_even {data : Bytes} (heven : data.length % 2 = 0) :
    wordsOfBytes data = .ok (leadingWords data) :=
  if_pos heven

theorem wordsOfBytes_of_odd {data : Bytes} (hodd : data.length % 2 = 1) :
    wordsOfBytes data = .error (.oddLength data.length) :=
  if_neg (by omega)

/-- Refuses data shorter than the given number of bytes. -/
def require (what : String) (expected : Nat) (data : Bytes) : Except RegisterFault Unit :=
  if data.length < expected then .error (.tooShort what expected data.length) else .ok ()

/-- The bytes of `count` registers, starting at register `index` of a block. -/
def slice (data : Bytes) (index count : Nat) : Except RegisterFault Bytes := do
  require "register slice" (index * 2 + count * 2) data
  return (data.drop (index * 2)).take (count * 2)

/-- The byte of up to eight switches, the first one lowest. -/
def switchByte : List Bool → UInt8
  | [] => 0
  | on :: rest => (if on then 1 else 0) + 2 * switchByte rest

/-- Switches packed eight to a byte; the last byte is filled up with switches that are off. -/
def packSwitches (switches : List Bool) : Bytes :=
  (List.range ((switches.length + 7) / 8)).map fun i =>
    switchByte ((switches.drop (8 * i)).take 8)

end Register

end ChargeController
