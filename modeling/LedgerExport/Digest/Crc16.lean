import LedgerExport.Bytes.Basic

/-!
# The sixteen-bit checksum of key texts

The cyclic redundancy check with polynomial `x^16 + x^12 + x^5 + 1`, most
significant bit first, starting from zero.
-/

namespace LedgerExport.Crc16

/-- The remainder moved by one bit. -/
def shift (r : UInt16) : UInt16 :=
  if r &&& 0x8000 = 0 then r <<< 1 else (r <<< 1) ^^^ 0x1021

/-- The remainder after `n` shifts. -/
def shifts : Nat → UInt16 → UInt16
  | 0, r => r
  | n + 1, r => shifts n (shift r)

/-- The remainder after one more byte. -/
def feed (r : UInt16) (byte : UInt8) : UInt16 :=
  shifts 8 (r ^^^ (byte.toUInt16 <<< 8))

/-- The checksum of a byte string. -/
def checksum (bytes : Octets) : UInt16 :=
  bytes.foldl feed 0

/-- The checksum as two bytes, the low one first. -/
def littleEndian (bytes : Octets) : Octets :=
  [(checksum bytes).toUInt8, (checksum bytes >>> 8).toUInt8]

end LedgerExport.Crc16
