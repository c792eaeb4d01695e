import ChargeController.Binary.Basic
import ChargeController.Register.Words

/-!
# Values in registers

Voltages, currents, powers, energies and temperatures are stored as hundredths of their unit.
A single register holds an unsigned or a two's-complement number; a pair of registers holds an
unsigned 32-bit number, low word first.
-/

namespace ChargeController

namespace Register

/-- Hundredths per unit. -/
def hundred : Single := Binary.ofNat 100

/-- An unsigned register in hundredths. -/
def scaled (w : UInt16) : Single :=
  Binary.ofNat w.toNat / hundred

/-- A two's-complement register in hundredths. -/
def signedScaled (w : UInt16) : Single :=
  Binary.ofInt w.toInt16.toInt / hundred

/-- A reading on an unsigned channel that wraps around to the negative at one half of a word. -/
def temperature (raw : UInt32) : Single :=
  let value := if raw < 32768 then raw.toInt32 else raw.toInt32 - 65536
  Binary.ofInt value.toInt / hundred

/-- The number in a pair of registers, low word first, in hundredths. -/
def scaledPair (low high : UInt16) : Single :=
  Binary.ofNat (low.toNat + 65536 * high.toNat) / hundred

/-- The unsigned register that stores a quantity; what does not fit is held at the nearest end. -/
def ofVolts (volts : Single) : UInt16 :=
  UInt16.ofInt ((volts * hundred).clampRound 0 65535)

/-- The two's-complement number that stores a temperature; what does not fit is held at the nearest
end. -/
def ofCelsius (celsius : Single) : Int16 :=
  Int16.ofInt ((celsius * hundred).clampRound (-32768) 32767)

/-! ## Reading values from data -/

/-- The first `count` words of data that holds at least so many. -/
def readWords (what : String) (count : Nat) (data : Bytes) :
    Except RegisterFault (List UInt16) := do
  require what (count * 2) data
  return (leadingWords data).take count

/-- The first word of data that holds at least one. -/
def readWord (what : String) : Bytes → Except RegisterFault UInt16
  | high :: low :: _ => .ok (word high low)
  | data => .error (.tooShort what 2 data.length)

/-- One unsigned quantity in hundredths. -/
def readScaled (data : Bytes) : Except RegisterFault Single :=
  scaled <$> readWord "scaled float" data

/-- A row of unsigned quantities in hundredths. -/
def readScaledRow (count : Nat) (data : Bytes) : Except RegisterFault (List Single) :=
  (List.map scaled) <$> readWords "scaled floats" count data

/-- One unsigned number, widened. -/
def readCount (data : Bytes) : Except RegisterFault UInt32 :=
  UInt16.toUInt32 <$> readWord "int" data

/-- A row of unsigned numbers, widened. -/
def readCountRow (count : Nat) (data : Bytes) : Except RegisterFault (List UInt32) :=
  (List.map UInt16.toUInt32) <$> readWords "ints" count data

/-- One two's-complement quantity in hundredths. -/
def readSignedScaled (data : Bytes) : Except RegisterFault Single :=
  signedScaled <$> readWord "signed scaled" data

/-- A row of two's-complement quantities in hundredths. -/
def readSignedScaledRow (count : Nat) (data : Bytes) : Except RegisterFault (List Single) :=
  (List.map signedScaled) <$> readWords "signed scaled values" count data

/-- A quantity in a pair of registers. -/
def readScaledPair : Bytes → Except RegisterFault Single
  | a :: b :: c :: d :: _ => .ok (scaledPair (word a b) (word c d))
  | data => .error (.tooShort "swapped float32" 4 data.length)

/-- The battery temperature and the device temperature. -/
def readTemperatures : Bytes → Except RegisterFault (Single × Single)
  | a :: b :: c :: d :: _ =>
      .ok (temperature (word a b).toUInt32, temperature (word c d).toUInt32)
  | data => .error (.tooShort "temperature pair" 4 data.length)

end Register

end ChargeController
