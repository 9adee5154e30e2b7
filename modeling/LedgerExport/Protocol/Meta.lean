import LedgerExport.Protocol.Event
import LedgerExport.Protocol.Result

/-!
# Transaction metadata

What applying a transaction changed and reported. The metadata grew in
versions: changes alone, changes before and after the operations, a report of
the contract call, and events for every operation.
-/

namespace LedgerExport.Protocol

open Xdr

/-- The changes of one operation. -/
structure OperationMeta where
  changes : List EntryChange

def OperationMeta.layout : Codec OperationMeta :=
  Layout.make OperationMeta.mk |>.field EntryChange.layouts (·.changes)

/-- The changes and events of one operation. -/
structure OperationMetaV2 where
  changes : List EntryChange
  events : List ContractEvent

def OperationMetaV2.layout : Codec OperationMetaV2 :=
  Layout.make OperationMetaV2.mk
    |>.mark 0
    |>.field EntryChange.layouts (·.changes)
    |>.field (many ContractEvent.layout) (·.events)

/-- The fees charged for a contract call. -/
structure SorobanFees where
  totalNonRefundable : Int64
  totalRefundable : Int64
  rent : Int64

def SorobanFees.layout : Codec SorobanFees :=
  Layout.make SorobanFees.mk
    |>.mark 0
    |>.field int64 (·.totalNonRefundable)
    |>.field int64 (·.totalRefundable)
    |>.field int64 (·.rent)

/-- What a contract call reported. -/
structure SorobanMeta where
  fees : Option SorobanFees
  events : List ContractEvent
  returnValue : ScVal
  diagnosticEvents : List DiagnosticEvent

def SorobanMeta.layout : Codec SorobanMeta :=
  Layout.make SorobanMeta.mk
    |>.field (extension 1 SorobanFees.layout) (·.fees)
    |>.field (many ContractEvent.layout) (·.events)
    |>.field ScVal.layout (·.returnValue)
    |>.field (many DiagnosticEvent.layout) (·.diagnosticEvents)

/-- What a contract call reported, its events elsewhere. -/
structure SorobanMetaV2 where
  fees : Option SorobanFees
  returnValue : Option ScVal

def SorobanMetaV2.layout : Codec SorobanMetaV2 :=
  Layout.make SorobanMetaV2.mk
    |>.field (extension 1 SorobanFees.layout) (·.fees)
    |>.field (optional ScVal.layout) (·.returnValue)

/-- The first version but one: changes of the transaction and of its operations. -/
structure TransactionMetaV1 where
  changes : List EntryChange
  operations : List OperationMeta

def TransactionMetaV1.layout : Codec TransactionMetaV1 :=
  Layout.make TransactionMetaV1.mk
    |>.field EntryChange.layouts (·.changes)
    |>.field (many OperationMeta.layout) (·.operations)

/-- Changes before, by and after the operations. -/
structure TransactionMetaV2 where
  changesBefore : List EntryChange
  operations : List OperationMeta
  changesAfter : List EntryChange

def TransactionMetaV2.layout : Codec TransactionMetaV2 :=
  Layout.make TransactionMetaV2.mk
    |>.field EntryChange.layouts (·.changesBefore)
    |>.field (many OperationMeta.layout) (·.operations)
    |>.field EntryChange.layouts (·.changesAfter)

/-- The same with the report of a contract call. -/
structure TransactionMetaV3 where
  changesBefore : List EntryChange
  operations : List OperationMeta
  changesAfter : List EntryChange
  soroban : Option SorobanMeta

def TransactionMetaV3.layout : Codec TransactionMetaV3 :=
  Layout.make TransactionMetaV3.mk
    |>.mark 0
    |>.field EntryChange.layouts (·.changesBefore)
    |>.field (many OperationMeta.layout) (·.operations)
    |>.field EntryChange.layouts (·.changesAfter)
    |>.field (optional SorobanMeta.layout) (·.soroban)

/-- The same with events for every operation and for the transaction. -/
structure TransactionMetaV4 where
  changesBefore : List EntryChange
  operations : List OperationMetaV2
  changesAfter : List EntryChange
  soroban : Option SorobanMetaV2
  events : List TransactionEvent
  diagnosticEvents : List DiagnosticEvent

def TransactionMetaV4.layout : Codec TransactionMetaV4 :=
  Layout.make TransactionMetaV4.mk
    |>.mark 0
    |>.field EntryChange.layouts (·.changesBefore)
    |>.field (many OperationMetaV2.layout) (·.operations)
    |>.field EntryChange.layouts (·.changesAfter)
    |>.field (optional SorobanMetaV2.layout) (·.soroban)
    |>.field (many TransactionEvent.layout) (·.events)
    |>.field (many DiagnosticEvent.layout) (·.diagnosticEvents)

/-- The metadata of a transaction, in any version. -/
inductive TransactionMeta
  | v0 (operations : List OperationMeta)
  | v1 (parts : TransactionMetaV1)
  | v2 (parts : TransactionMetaV2)
  | v3 (parts : TransactionMetaV3)
  | v4 (parts : TransactionMetaV4)

def TransactionMeta.layout : Codec TransactionMeta :=
  union
    (fun
      | .v0 operations => ⟨0, many OperationMeta.layout, operations⟩
      | .v1 parts => ⟨1, TransactionMetaV1.layout, parts⟩
      | .v2 parts => ⟨2, TransactionMetaV2.layout, parts⟩
      | .v3 parts => ⟨3, TransactionMetaV3.layout, parts⟩
      | .v4 parts => ⟨4, TransactionMetaV4.layout, parts⟩)
    (fun
      | 0 => .v0 <$> (many OperationMeta.layout).read
      | 1 => .v1 <$> TransactionMetaV1.layout.read
      | 2 => .v2 <$> TransactionMetaV2.layout.read
      | 3 => .v3 <$> TransactionMetaV3.layout.read
      | 4 => .v4 <$> TransactionMetaV4.layout.read
      | _ => throw .invalidValue)

end LedgerExport.Protocol
