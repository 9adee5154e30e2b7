import LedgerExport.Record.Ledger

/-!
# Identified events on lines of their own

The events of a ledger that have an identifier, each with the place at which it
was emitted. The members of such a line are its place and then the members of
the event.
-/

namespace LedgerExport.Record

/-- An event and where it was emitted. -/
structure EventLine where
  ledger : UInt32
  transactionHash : Hash
  operation : Toid
  event : ContractEvent

namespace EventLine

/-- The members of a line. -/
def members (line : EventLine) : List (String × Json) :=
  ("ledger", Form.uint32.write line.ledger)
    :: ("transaction_hash", Form.hash.write line.transactionHash)
    :: ("operation", Toid.form.write line.operation)
    :: ContractEvent.fields.write line.event

/-- A line as a document. -/
def document (line : EventLine) : Json :=
  .obj line.members

end EventLine

/-- The events of an operation that have an identifier. -/
def OperationRecord.identified (record : OperationRecord) : List ContractEvent :=
  record.events.filter (·.id.isSome)

/-- The lines of an operation. -/
def OperationRecord.eventLines (ledger : UInt32) (transactionHash : Hash)
    (record : OperationRecord) : List EventLine :=
  record.identified.map fun event => ⟨ledger, transactionHash, record.toid, event⟩

/-- The lines of a transaction. -/
def TransactionRecord.eventLines (ledger : UInt32) (record : TransactionRecord) :
    List EventLine :=
  record.operations.flatMap (·.eventLines ledger record.hash)

/-- The lines of a ledger. -/
def LedgerRecord.eventLines (record : LedgerRecord) : List EventLine :=
  record.transactions.flatMap (·.eventLines record.summary.sequence)

/-- How many events of a ledger have an identifier, over all operations at once. -/
def LedgerRecord.identifiedCount (record : LedgerRecord) : Nat :=
  (record.transactions.flatMap (·.operations)).flatMap (·.events) |>.countP (·.id.isSome)

theorem OperationRecord.length_eventLines (ledger : UInt32) (transactionHash : Hash)
    (record : OperationRecord) :
    (record.eventLines ledger transactionHash).length = record.events.countP (·.id.isSome) := by
  rw [eventLines, identified, List.length_map, List.countP_eq_length_filter]

/-- As many events have an identifier as a ledger has lines. -/
theorem LedgerRecord.length_eventLines (record : LedgerRecord) :
    record.eventLines.length = record.identifiedCount := by
  simp only [eventLines, TransactionRecord.eventLines, identifiedCount, List.length_flatMap,
    List.countP_flatMap, OperationRecord.length_eventLines, List.flatMap_assoc,
    Function.comp_def]

end LedgerExport.Record
