import LedgerExport.Options
import LedgerExport.Protocol.Meta
import LedgerExport.Record.Ledger

/-!
# Metadata as it is shown

What a transaction changed and reported is split into what belongs to the whole
and what belongs to each operation. Events get identifiers and asset events only
if the transaction succeeded.

## Implementation notes

The third version keeps the events of a contract call beside the operations; a
transaction with such a call has one operation, and the events go to the first.
-/

namespace LedgerExport

/-- What belongs to one operation. -/
structure OperationPart where
  changes : Option (List Record.EntryChange)
  events : List Record.ContractEvent

/-- Nothing is known of an operation. -/
def OperationPart.empty : OperationPart := ⟨none, []⟩

/-- What belongs to the whole, and what to each operation. -/
structure RenderedMeta where
  whole : Record.TransactionMeta
  operations : List OperationPart

/-- The events of an operation as they are shown. -/
def operationEvents (options : ExportOptions) (successful : Bool) (operation : Toid)
    (sources : List SourceEvent) : List Record.ContractEvent :=
  if successful then (Harvest.operation operation options.harvest sources).map (·.render)
  else sources.map (·.event.render)

namespace Protocol

def SorobanFees.render (p : SorobanFees) : Record.SorobanFees where
  totalNonRefundable := p.totalNonRefundable
  totalRefundable := p.totalRefundable
  rent := p.rent

/-- An operation that reports no events. -/
def OperationMeta.part (options : ExportOptions) (p : OperationMeta) : OperationPart :=
  ⟨options.changes p.changes, []⟩

/-- Gives events to the first operation, or to one of their own if there is none. -/
def giveToFirst (events : List Record.ContractEvent) : List OperationPart → List OperationPart
  | [] => [⟨none, events⟩]
  | first :: more => { first with events := events } :: more

/-- The events of a contract call that belong to its operation. -/
def SorobanMeta.sources (options : ExportOptions) (p : SorobanMeta) : List SourceEvent :=
  if options.useDiagnosticEvents then p.diagnosticEvents.map .ofDiagnostic
  else p.events.map .ofContract

/-- The operations of the fourth version, from a place on. -/
def operationParts (options : ExportOptions) (successful : Bool) (transaction : Toid) :
    Nat → List OperationMetaV2 → Except Error (List OperationPart)
  | _, [] => .ok []
  | order, p :: more => do
    let operation ← transaction.atOperation order
    let events := operationEvents options successful operation (p.events.map .ofContract)
    let parts ← operationParts options successful transaction (order + 1) more
    return ⟨options.changes p.changes, events⟩ :: parts

/-- The metadata of the transaction at a place. -/
def TransactionMeta.render (options : ExportOptions) (successful : Bool) (transaction : Toid) :
    TransactionMeta → Except Error RenderedMeta
  | .v0 operations =>
    .ok ⟨⟨0, none, none, [], [], none⟩, operations.map (·.part options)⟩
  | .v1 p =>
    .ok ⟨⟨1, options.changes p.changes, none, [], [], none⟩, p.operations.map (·.part options)⟩
  | .v2 p =>
    .ok ⟨⟨2, options.changes p.changesBefore, options.changes p.changesAfter, [], [], none⟩,
      p.operations.map (·.part options)⟩
  | .v3 p =>
    let parts := p.operations.map (·.part options)
    let whole := ⟨3, options.changes p.changesBefore, options.changes p.changesAfter, [], [], none⟩
    match p.soroban with
    | none => .ok ⟨whole, parts⟩
    | some soroban => do
      let operation ← transaction.atOperation 1
      let events := operationEvents options successful operation (soroban.sources options)
      return ⟨{ whole with
          diagnosticEvents := options.diagnostics soroban.diagnosticEvents
          soroban := some ⟨some soroban.returnValue.render, soroban.fees.map (·.render)⟩ },
        giveToFirst events parts⟩
  | .v4 p => do
    let parts ← operationParts options successful transaction 1 p.operations
    return ⟨{
        version := 4
        changesBefore := options.changes p.changesBefore
        changesAfter := options.changes p.changesAfter
        events := p.events.map (·.render)
        diagnosticEvents := options.diagnostics p.diagnosticEvents
        soroban := p.soroban.map fun s =>
          ⟨s.returnValue.map (·.render), s.fees.map (·.render)⟩ }, parts⟩

end Protocol

end LedgerExport
