import LedgerExport.Record.Envelope
import LedgerExport.Record.Event
import LedgerExport.Record.Result

/-!
# Transactions and ledgers as records

The documents that an export writes: one for each ledger, which holds its
transactions in the order in which they were applied, each with its operations.
-/

namespace LedgerExport.Record

open Form

/-! ## Metadata -/

/-- The fees charged for a contract call. -/
structure SorobanFees where
  totalNonRefundable : Int64
  totalRefundable : Int64
  rent : Int64

def SorobanFees.form : Form SorobanFees :=
  record <| Fields.make SorobanFees.mk
    |>.field "total_non_refundable_resource_fee_charged" int64 (·.totalNonRefundable)
    |>.field "total_refundable_resource_fee_charged" int64 (·.totalRefundable)
    |>.field "rent_fee_charged" int64 (·.rent)

/-- What a contract call gave back and cost. -/
structure SorobanMeta where
  returnValue : Option ScVal
  fees : Option SorobanFees

def SorobanMeta.form : Form SorobanMeta :=
  record <| Fields.make SorobanMeta.mk
    |>.field "return_value" (option ScVal.form) (·.returnValue)
    |>.field "fees" (option SorobanFees.form) (·.fees)

/-- What a transaction as a whole changed and reported. -/
structure TransactionMeta where
  version : UInt32
  changesBefore : Option (List EntryChange)
  changesAfter : Option (List EntryChange)
  events : List TransactionEvent
  diagnosticEvents : List DiagnosticEvent
  soroban : Option SorobanMeta

def TransactionMeta.form : Form TransactionMeta :=
  record <| Fields.make TransactionMeta.mk
    |>.field "version" uint32 (·.version)
    |>.field "tx_changes_before" (option (list EntryChange.form)) (·.changesBefore)
    |>.field "tx_changes_after" (option (list EntryChange.form)) (·.changesAfter)
    |>.field "tx_events" (list TransactionEvent.form) (·.events)
    |>.field "diagnostic_events" (list DiagnosticEvent.form) (·.diagnosticEvents)
    |>.field "soroban" (option SorobanMeta.form) (·.soroban)

/-! ## Transactions -/

/-- What became of an operation. -/
structure OperationRecord where
  toid : Toid
  order : UInt32
  result : Option OperationResult
  changes : Option (List EntryChange)
  events : List ContractEvent

def OperationRecord.form : Form OperationRecord :=
  record <| Fields.make OperationRecord.mk
    |>.field "toid" Toid.form (·.toid)
    |>.field "application_order" uint32 (·.order)
    |>.field "result" (option OperationResult.form) (·.result)
    |>.field "changes" (option (list EntryChange.form)) (·.changes)
    |>.field "events" (list ContractEvent.form) (·.events)

/-- What became of a transaction. -/
structure TransactionRecord where
  hash : Hash
  order : UInt32
  toid : Toid
  successful : Bool
  envelope : Envelope
  result : TransactionResult
  feeChanges : Option (List EntryChange)
  postApplyFeeChanges : Option (List EntryChange)
  applied : TransactionMeta
  operations : List OperationRecord

def TransactionRecord.form : Form TransactionRecord :=
  record <| Fields.make TransactionRecord.mk
    |>.field "hash" Form.hash (·.hash)
    |>.field "application_order" uint32 (·.order)
    |>.field "toid" Toid.form (·.toid)
    |>.field "successful" bool (·.successful)
    |>.field "envelope" Envelope.form (·.envelope)
    |>.field "result" TransactionResult.form (·.result)
    |>.field "fee_changes" (option (list EntryChange.form)) (·.feeChanges)
    |>.field "post_apply_fee_changes" (option (list EntryChange.form)) (·.postApplyFeeChanges)
    |>.field "meta" TransactionMeta.form (·.applied)
    |>.field "operations" (list OperationRecord.form) (·.operations)

/-! ## Ledgers -/

/-- A change of the rules of the network. -/
inductive LedgerUpgrade
  | version (version : UInt32)
  | baseFee (fee : UInt32)
  | maxTxSetSize (size : UInt32)
  | baseReserve (reserve : UInt32)
  | flags (flags : UInt32)
  | config (contract : String) (contentHash : Hash)
  | maxSorobanTxSetSize (size : UInt32)

namespace LedgerUpgrade

/-- The place of a setting. -/
def configFields : Fields (String × Hash) (String × Hash) :=
  Fields.make Prod.mk |>.field "contract_id" text (·.1) |>.field "content_hash" hash (·.2)

def form : Form LedgerUpgrade :=
  tagged
    (fun
      | .version n => ⟨"version", value uint32, n⟩
      | .baseFee n => ⟨"base_fee", value uint32, n⟩
      | .maxTxSetSize n => ⟨"max_tx_set_size", value uint32, n⟩
      | .baseReserve n => ⟨"base_reserve", value uint32, n⟩
      | .flags n => ⟨"flags", value uint32, n⟩
      | .config contract h => ⟨"config", named configFields, (contract, h)⟩
      | .maxSorobanTxSetSize n => ⟨"max_soroban_tx_set_size", value uint32, n⟩)
    (fun
      | "version" => (value uint32).into .version
      | "base_fee" => (value uint32).into .baseFee
      | "max_tx_set_size" => (value uint32).into .maxTxSetSize
      | "base_reserve" => (value uint32).into .baseReserve
      | "flags" => (value uint32).into .flags
      | "config" => (named configFields).into fun (contract, h) => .config contract h
      | "max_soroban_tx_set_size" => (value uint32).into .maxSorobanTxSetSize
      | _ => fun _ => none)

end LedgerUpgrade

/-- A ledger in numbers. -/
structure LedgerSummary where
  hash : Hash
  previousHash : Hash
  sequence : UInt32
  transactionCount : UInt32
  successfulTransactionCount : UInt32
  failedTransactionCount : UInt32
  operationCount : UInt32
  successfulOperationCount : UInt32
  protocolVersion : UInt32
  closeTime : UInt64
  baseFee : UInt32
  baseReserve : UInt32
  maxTxSetSize : UInt32
  totalCoins : Int64
  feePool : Int64
  upgrades : List LedgerUpgrade

def LedgerSummary.form : Form LedgerSummary :=
  record <| Fields.make LedgerSummary.mk
    |>.field "hash" Form.hash (·.hash)
    |>.field "previous_hash" Form.hash (·.previousHash)
    |>.field "sequence" uint32 (·.sequence)
    |>.field "transaction_count" uint32 (·.transactionCount)
    |>.field "successful_transaction_count" uint32 (·.successfulTransactionCount)
    |>.field "failed_transaction_count" uint32 (·.failedTransactionCount)
    |>.field "operation_count" uint32 (·.operationCount)
    |>.field "successful_operation_count" uint32 (·.successfulOperationCount)
    |>.field "protocol_version" uint32 (·.protocolVersion)
    |>.field "close_time" uint64 (·.closeTime)
    |>.field "base_fee" uint32 (·.baseFee)
    |>.field "base_reserve" uint32 (·.baseReserve)
    |>.field "max_tx_set_size" uint32 (·.maxTxSetSize)
    |>.field "total_coins" int64 (·.totalCoins)
    |>.field "fee_pool" int64 (·.feePool)
    |>.field "upgrades" (list LedgerUpgrade.form) (·.upgrades)

/-- A ledger and its transactions. -/
structure LedgerRecord where
  summary : LedgerSummary
  transactions : List TransactionRecord

def LedgerRecord.form : Form LedgerRecord :=
  record <| Fields.make LedgerRecord.mk
    |>.field "summary" LedgerSummary.form (·.summary)
    |>.field "transactions" (list TransactionRecord.form) (·.transactions)

end LedgerExport.Record
