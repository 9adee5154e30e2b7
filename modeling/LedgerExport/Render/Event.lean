import LedgerExport.Protocol.Event
import LedgerExport.Record.Event
import LedgerExport.Render.ScVal

/-!
# Events as they are shown

An event takes its identifier and its asset event from whoever shows it; by
itself it has neither.
-/

namespace LedgerExport.Protocol

def EventType.render : EventType → Record.EventType
  | .system => .system
  | .contract => .contract
  | .diagnostic => .diagnostic

/-- An event with an identifier and an asset event, if there are any. -/
def ContractEvent.renderWith (id : Option EventId) (assetEvent : Option Record.AssetEvent)
    (p : ContractEvent) : Record.ContractEvent where
  id := id
  contract := p.contract.map (·.text)
  type := p.type.render
  topics := p.topics.map (·.render)
  data := p.data.render
  assetEvent := assetEvent

/-- An event alone. -/
def ContractEvent.render (p : ContractEvent) : Record.ContractEvent :=
  p.renderWith none none

def DiagnosticEvent.render (p : DiagnosticEvent) : Record.DiagnosticEvent where
  inSuccessfulContractCall := p.inSuccessfulContractCall
  event := p.event.render

def EventStage.render : EventStage → Record.EventStage
  | .beforeAllTxs => .beforeAllTxs
  | .afterTx => .afterTx
  | .afterAllTxs => .afterAllTxs

def TransactionEvent.render (p : TransactionEvent) : Record.TransactionEvent where
  stage := p.stage.render
  event := p.event.render

end LedgerExport.Protocol
