import LedgerExport.Bytes.Hex
import LedgerExport.Text.Decimal
import LedgerExport.Text.Quoted
import LedgerExport.Text.Utf8

/-!
# Texts of hashes

A hash is written as sixty-four lowercase hexadecimal digits and read in either
case.

## Implementation notes

A digit that is none is shown as the character of its byte, even where that byte
is part of a longer character.
-/

namespace LedgerExport

/-- The words for a fault. -/
def Hex.Fault.message : Hex.Fault → String
  | .oddLength => "Odd number of digits"
  | .invalidDigit byte index =>
    "Invalid character " ++ Quoted.char (Char.ofNat byte.toNat) ++ " at position "
      ++ Decimal.nat index
  | .wrongLength => "Invalid string length"

namespace Hash

/-- The text of a hash. -/
def text (hash : Hash) : String :=
  Hex.text hash.bytes

/-- Reads the text of a hash. -/
def parse (text : String) : Except Hex.Fault Hash :=
  match Hex.decode (Utf8.bytes text) with
  | .error fault => .error fault
  | .ok bytes =>
    match FixedBytes.ofList? 32 bytes with
    | some hash => .ok hash
    | none => .error .wrongLength

end Hash

end LedgerExport
