import LedgerExport.Bytes.Basic

/-!
# Hexadecimal text

A byte is written as two lowercase digits. Reading takes either case and names
the first thing that is wrong: an odd number of digits before anything else,
then the lowest byte that is no digit.
-/

namespace LedgerExport.Hex

/-- The lowercase digit of a number below sixteen. -/
def digit (n : Nat) : Char :=
  if n < 10 then Char.ofNat (48 + n) else Char.ofNat (87 + n)

/-- The value of one digit of either case, given as the byte that stands for it. -/
def value? (byte : UInt8) : Option Nat :=
  let n := byte.toNat
  if 48 ≤ n ∧ n ≤ 57 then some (n - 48)
  else if 97 ≤ n ∧ n ≤ 102 then some (n - 87)
  else if 65 ≤ n ∧ n ≤ 70 then some (n - 55)
  else none

/-- Two digits for each byte, the high half first. -/
def digits (bytes : Octets) : List Char :=
  bytes.flatMap fun b => [digit (b.toNat / 16), digit (b.toNat % 16)]

/-- The digits of a byte string as text. -/
def text (bytes : Octets) : String :=
  String.ofList (digits bytes)

/-- Why a text is not the hexadecimal form of a value. -/
inductive Fault
  | oddLength
  | invalidDigit (byte : UInt8) (index : Nat)
  | wrongLength
deriving DecidableEq

/-- Pairs of digits from position `index` on; the caller has seen that the number is even. -/
def decodeFrom (index : Nat) : Octets → Except Fault Octets
  | high :: low :: rest =>
    match value? high, value? low with
    | none, _ => .error (.invalidDigit high index)
    | some _, none => .error (.invalidDigit low (index + 1))
    | some h, some l =>
      match decodeFrom (index + 2) rest with
      | .ok bytes => .ok (UInt8.ofNat (16 * h + l) :: bytes)
      | .error fault => .error fault
  | _ => .ok []

/-- Reads a text given as its bytes. -/
def decode (digits : Octets) : Except Fault Octets :=
  if digits.length % 2 = 1 then .error .oddLength else decodeFrom 0 digits

end LedgerExport.Hex
