import LedgerExport.Protocol.ScVal

/-!
# Events

What contracts report: topics and data, under the contract that reports them.
Diagnostic events say whether their call succeeded, and events of a transaction
as a whole say when they arose.
-/

namespace LedgerExport.Protocol

open Xdr

/-- Who an event is from: the host, a contract, or the host in search of faults. -/
inductive EventType
  | system
  | contract
  | diagnostic
deriving DecidableEq

namespace EventType

/-- All types, in the order of their numbers. -/
def members : List EventType := [system, contract, diagnostic]

def layout : Codec EventType :=
  enumeration members fun type => UInt32.ofNat type.ctorIdx

end EventType

/-- An event. -/
structure ContractEvent where
  contract : Option ContractId
  type : EventType
  topics : List ScVal
  data : ScVal

def ContractEvent.layout : Codec ContractEvent :=
  Layout.make ContractEvent.mk
    |>.mark 0
    |>.field (optional ContractId.layout) (·.contract)
    |>.field EventType.layout (·.type)
    |>.mark 0
    |>.field (many ScVal.layout) (·.topics)
    |>.field ScVal.layout (·.data)

/-- An event and whether the call that made it succeeded. -/
structure DiagnosticEvent where
  inSuccessfulContractCall : Bool
  event : ContractEvent

def DiagnosticEvent.layout : Codec DiagnosticEvent :=
  Layout.make DiagnosticEvent.mk
    |>.field bool (·.inSuccessfulContractCall)
    |>.field ContractEvent.layout (·.event)

/-- When an event of a transaction as a whole arose. -/
inductive EventStage
  | beforeAllTxs
  | afterTx
  | afterAllTxs
deriving DecidableEq

namespace EventStage

/-- All stages, in the order of their numbers. -/
def members : List EventStage := [beforeAllTxs, afterTx, afterAllTxs]

def layout : Codec EventStage :=
  enumeration members fun stage => UInt32.ofNat stage.ctorIdx

end EventStage

/-- An event of a transaction as a whole. -/
structure TransactionEvent where
  stage : EventStage
  event : ContractEvent

def TransactionEvent.layout : Codec TransactionEvent :=
  Layout.make TransactionEvent.mk
    |>.field EventStage.layout (·.stage)
    |>.field ContractEvent.layout (·.event)

end LedgerExport.Protocol
