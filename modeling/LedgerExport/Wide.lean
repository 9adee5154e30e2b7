import LedgerExport.Text.Decimal
import LedgerExport.Xdr.Layout

/-!
# Integers of 128 and 256 bits

Wide integers are kept in words of 64 bits, the most significant first; in the
signed types that first word is signed.

## Implementation notes

Bits are cut and put together by shifts and changes of width, as a machine does it,
while the words of an integer are worked out by division.
-/

namespace LedgerExport

open Xdr

/-- A signed integer of 128 bits. -/
structure Int128 where
  hi : Int64
  lo : UInt64
deriving DecidableEq

namespace Int128

/-- The value `hi * 2^64 + lo`. -/
def toInt (v : Int128) : Int :=
  v.hi.toInt * 0x10000000000000000 + v.lo.toNat

/-- The words of an integer, taken modulo `2^128`. -/
def ofInt (n : Int) : Int128 where
  hi := Int64.ofInt (n / 0x10000000000000000)
  lo := UInt64.ofNat (n % 0x10000000000000000).toNat

/-- The words of an integer within range. -/
def ofInt? (n : Int) : Option Int128 :=
  if -0x80000000000000000000000000000000 ≤ n ∧ n < 0x80000000000000000000000000000000 then
    some (ofInt n)
  else none

/-- The upper 64 bits, shifted down with the sign, and the lower 64. -/
def ofBits (v : BitVec 128) : Int128 where
  hi := .ofBitVec ((v.sshiftRight 64).setWidth 64)
  lo := .ofBitVec (v.setWidth 64)

/-- The upper word with its sign in front, shifted up, and the lower one with zeros in front. -/
def bits (w : Int128) : BitVec 128 :=
  w.hi.toBitVec.signExtend 128 <<< 64 ||| w.lo.toBitVec.setWidth 128

/-- The decimal text. -/
def text (v : Int128) : String :=
  Decimal.int v.toInt

def layout : Codec Int128 :=
  Layout.make Int128.mk |>.field int64 (·.hi) |>.field uint64 (·.lo)

end Int128

/-- An unsigned integer of 128 bits. -/
structure UInt128 where
  hi : UInt64
  lo : UInt64
deriving DecidableEq

namespace UInt128

/-- The value `hi * 2^64 + lo`. -/
def toNat (v : UInt128) : Nat :=
  v.hi.toNat * 0x10000000000000000 + v.lo.toNat

/-- The words of a number, taken modulo `2^128`. -/
def ofNat (n : Nat) : UInt128 where
  hi := UInt64.ofNat (n / 0x10000000000000000)
  lo := UInt64.ofNat n

/-- The words of an integer within range. -/
def ofInt? (n : Int) : Option UInt128 :=
  if 0 ≤ n ∧ n < 0x100000000000000000000000000000000 then some (ofNat n.toNat) else none

/-- The upper 64 bits, shifted down, and the lower 64. -/
def ofBits (v : BitVec 128) : UInt128 where
  hi := .ofBitVec ((v >>> 64).setWidth 64)
  lo := .ofBitVec (v.setWidth 64)

/-- Both words with zeros in front, the upper one shifted up. -/
def bits (w : UInt128) : BitVec 128 :=
  w.hi.toBitVec.setWidth 128 <<< 64 ||| w.lo.toBitVec.setWidth 128

/-- The decimal text. -/
def text (v : UInt128) : String :=
  Decimal.nat v.toNat

def layout : Codec UInt128 :=
  Layout.make UInt128.mk |>.field uint64 (·.hi) |>.field uint64 (·.lo)

end UInt128

/-- A signed integer of 256 bits. -/
structure Int256 where
  hiHi : Int64
  hiLo : UInt64
  loHi : UInt64
  loLo : UInt64

def Int256.layout : Codec Int256 :=
  Layout.make Int256.mk
    |>.field int64 (·.hiHi)
    |>.field uint64 (·.hiLo)
    |>.field uint64 (·.loHi)
    |>.field uint64 (·.loLo)

/-- An unsigned integer of 256 bits. -/
structure UInt256 where
  hiHi : UInt64
  hiLo : UInt64
  loHi : UInt64
  loLo : UInt64

def UInt256.layout : Codec UInt256 :=
  Layout.make UInt256.mk
    |>.field uint64 (·.hiHi)
    |>.field uint64 (·.hiLo)
    |>.field uint64 (·.loHi)
    |>.field uint64 (·.loLo)

end LedgerExport
