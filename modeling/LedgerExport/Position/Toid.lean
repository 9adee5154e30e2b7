import LedgerExport.Error

/-!
# Positions in the history

The place of a ledger, a transaction or an operation is one number that packs
the sequence of the ledger, the place of the transaction in it and the place of
the operation in that, so that places are ordered as the history is.

## Implementation notes

The parts take 31, 20 and 12 bits. Places of transactions and operations count
from 1; a place with the last part 0 is that of the whole.
-/

namespace LedgerExport

/-- The place of a ledger, a transaction or an operation. -/
structure Toid where
  raw : Nat
  raw_lt : raw < 0x8000000000000000
deriving DecidableEq

namespace Toid

/-- The greatest sequence of a ledger that has a place. -/
def maxLedger : Nat := 2147483647

/-- The greatest place of a transaction in a ledger. -/
def maxTransaction : Nat := 1048575

/-- The greatest place of an operation in a transaction. -/
def maxOperation : Nat := 4095

/-- The parts packed into one number. -/
def pack (ledger transaction operation : Nat) : Nat :=
  ledger * 0x100000000 + transaction * 0x1000 + operation

/-- The place of an operation; the first part that is out of range is the one reported. -/
def make (ledger transaction operation : Nat) : Except Error Toid :=
  if hl : maxLedger < ledger then .error (.ledgerRange ledger)
  else if ht : maxTransaction < transaction then .error (.transactionRange transaction)
  else if ho : maxOperation < operation then .error (.operationRange operation)
  else .ok ⟨pack ledger transaction operation, by
    simp only [maxLedger, maxTransaction, maxOperation] at hl ht ho
    simp only [pack]
    omega⟩

/-- The place of a ledger. -/
def ofLedger (ledger : Nat) : Except Error Toid :=
  make ledger 0 0

/-- The place of a transaction. -/
def ofTransaction (ledger transaction : Nat) : Except Error Toid :=
  make ledger transaction 0

/-- The place that a number packs. -/
def ofRaw (raw : Int64) : Except Error Toid :=
  if h : 0 ≤ raw.toInt then .ok ⟨raw.toInt.toNat, by have := raw.toInt_lt; omega⟩
  else .error (.negativeToid raw.toInt)

/-- The first place of all. -/
def zero : Toid := ⟨0, by decide⟩

/-- The sequence of the ledger. -/
def ledger (t : Toid) : Nat :=
  t.raw / 0x100000000

/-- The place of the transaction in its ledger. -/
def transaction (t : Toid) : Nat :=
  t.raw / 0x1000 % 0x100000

/-- The place of the operation in its transaction. -/
def operation (t : Toid) : Nat :=
  t.raw % 0x1000

/-- The place of another operation of the same transaction. -/
def atOperation (t : Toid) (operation : Nat) : Except Error Toid :=
  make t.ledger t.transaction operation

/-- The decimal text. -/
def text (t : Toid) : String :=
  Decimal.nat t.raw

instance : LT Toid := ⟨fun a b => a.raw < b.raw⟩

instance (a b : Toid) : Decidable (a < b) :=
  inferInstanceAs (Decidable (a.raw < b.raw))

end Toid

end LedgerExport
