import LedgerExport.Closing
import LedgerExport.Render.Envelope
import LedgerExport.Render.Meta
import LedgerExport.Render.Result

/-!
# Closed ledgers as they are shown

A closed ledger becomes one document: a summary, and its transactions with their
operations. Transactions are looked at in order before upgrades, and the first
error ends the work.

## Implementation notes

Of a transaction the place is worked out first, then the result, then the
metadata, and the places of the operations last.
-/

namespace LedgerExport

open Protocol

/-! ## Transactions -/

/-- Operations from a place on, each with its result and its part of the metadata. -/
def operationRecords (transaction : Toid) :
    Nat → Nat → List Record.OperationResult → List OperationPart →
      Except Error (List Record.OperationRecord)
  | _, 0, _, _ => .ok []
  | order, count + 1, results, parts => do
    let toid ← transaction.atOperation order
    let part := parts.headD .empty
    let more ← operationRecords transaction (order + 1) count results.tail parts.tail
    return ⟨toid, UInt32.ofNat order, results.head?, part.changes, part.events⟩ :: more

/-- A transaction at a place of a ledger. -/
def TransactionClosing.render (options : ExportOptions) (ledger : Nat) (order : Nat)
    (closing : TransactionClosing) : Except Error Record.TransactionRecord := do
  let toid ← Toid.ofTransaction ledger order
  let operations := closing.envelope.operations
  let result ← closing.result.result.render (operations.map (·.body.kind))
  let successful := result.isSuccess
  let applied ← closing.applied.render options successful toid
  let records ← operationRecords toid 1 operations.length
    (result.effectiveResults.getD []) applied.operations
  return {
    hash := closing.result.hash
    order := UInt32.ofNat order
    toid := toid
    successful := successful
    envelope := closing.envelope.render
    result := result
    feeChanges := options.changes closing.feeChanges
    postApplyFeeChanges := closing.postApplyFeeChanges.bind options.changes
    applied := applied.whole
    operations := records }

/-- Transactions from a place on. -/
def transactionRecords (options : ExportOptions) (ledger : Nat) :
    Nat → List TransactionClosing → Except Error (List Record.TransactionRecord)
  | _, [] => .ok []
  | order, closing :: more => do
    let first ← closing.render options ledger order
    return first :: (← transactionRecords options ledger (order + 1) more)

/-! ## Upgrades -/

/-- The first four bytes as a signed number, or -1 where there are fewer. -/
def upgradeDiscriminant (bytes : Octets) : Int :=
  if bytes.length < 4 then -1
  else (UInt32.ofNat (BigEndian.read (bytes.take 4))).toInt32.toInt

namespace Protocol.LedgerUpgrade

def render : LedgerUpgrade → Record.LedgerUpgrade
  | .version n => .version n
  | .baseFee n => .baseFee n
  | .maxTxSetSize n => .maxTxSetSize n
  | .baseReserve n => .baseReserve n
  | .flags n => .flags n
  | .config key => .config key.contract.text key.contentHash
  | .maxSorobanTxSetSize n => .maxSorobanTxSetSize n

/-- The upgrade that a byte string of a header encodes, as it is shown. -/
def ofBytes (bytes : Octets) : Except Error Record.LedgerUpgrade :=
  match layout.decode bytes with
  | .ok upgrade => .ok upgrade.render
  | .error _ => .error (.unknownUpgrade (upgradeDiscriminant bytes))

end Protocol.LedgerUpgrade

/-! ## Ledgers -/

/-- The number of operations of some transactions. -/
def operationTotal (transactions : List Record.TransactionRecord) : Nat :=
  (transactions.flatMap fun tx => tx.operations).length

/-- A closed ledger as a document. -/
def LedgerClosing.render (options : ExportOptions) (closing : LedgerClosing) :
    Except Error Record.LedgerRecord := do
  let header := closing.header.header
  let transactions ←
    transactionRecords options header.ledgerSeq.toNat 1 closing.transactions
  let upgrades ← header.closeValue.upgrades.mapM LedgerUpgrade.ofBytes
  let successful := transactions.filter (·.successful)
  return {
    summary := {
      hash := closing.header.hash
      previousHash := header.previousLedgerHash
      sequence := header.ledgerSeq
      transactionCount := UInt32.ofNat transactions.length
      successfulTransactionCount := UInt32.ofNat successful.length
      failedTransactionCount := UInt32.ofNat transactions.length - UInt32.ofNat successful.length
      operationCount := UInt32.ofNat (operationTotal transactions)
      successfulOperationCount := UInt32.ofNat (operationTotal successful)
      protocolVersion := header.ledgerVersion
      closeTime := header.closeValue.closeTime
      baseFee := header.baseFee
      baseReserve := header.baseReserve
      maxTxSetSize := header.maxTxSetSize
      totalCoins := header.totalCoins
      feePool := header.feePool
      upgrades := upgrades }
    transactions := transactions }

end LedgerExport
