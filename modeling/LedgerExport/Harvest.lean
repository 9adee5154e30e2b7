import LedgerExport.AssetEvent.Decoding
import LedgerExport.Render.Event

/-!
# Harvesting the events of an operation

The events that an operation reported are taken in order. Those of contracts,
from calls that succeeded, are emitted and numbered from 1; the others are
skipped, and so is an event that claims to speak of an asset and does not.

## Implementation notes

Whether an event is emitted depends on that event alone; only the number
depends on those before it.
-/

namespace LedgerExport

open Protocol (ContractEvent DiagnosticEvent)

/-- An event and whether the call that reported it succeeded. -/
structure SourceEvent where
  event : ContractEvent
  inSuccessfulCall : Bool

namespace SourceEvent

/-- Events kept for an operation come from calls that succeeded. -/
def ofContract (event : ContractEvent) : SourceEvent :=
  ⟨event, true⟩

/-- Diagnostic events say whether their call succeeded. -/
def ofDiagnostic (diagnostic : DiagnosticEvent) : SourceEvent :=
  ⟨diagnostic.event, diagnostic.inSuccessfulContractCall⟩

/-- Whether an event may be emitted. -/
def isCandidate (source : SourceEvent) : Bool :=
  source.inSuccessfulCall && source.event.type == .contract

end SourceEvent

/-- Whether asset events are decoded, and in which network. -/
structure HarvestOptions where
  decodeAssetEvents : Bool
  network : Option NetworkId

/-- Why an event is skipped. -/
inductive SkipReason
  | notCandidate
  | malformed (malformed : AssetEvent.Malformed)
deriving DecidableEq

/-- What became of an event. -/
inductive Harvested
  | emitted (id : EventId) (event : ContractEvent) (assetEvent : Option Record.AssetEvent)
  | skipped (event : ContractEvent) (reason : SkipReason)

namespace Harvested

/-- The event itself. -/
def event : Harvested → ContractEvent
  | .emitted _ event _ => event
  | .skipped event _ => event

/-- The identifier of an emitted event. -/
def id? : Harvested → Option EventId
  | .emitted id _ _ => some id
  | .skipped _ _ => none

/-- What an emitted event says about an asset. -/
def assetEvent? : Harvested → Option Record.AssetEvent
  | .emitted _ _ assetEvent => assetEvent
  | .skipped _ _ => none

/-- An event as it is shown after the harvest. -/
def render (harvested : Harvested) : Record.ContractEvent :=
  harvested.event.renderWith harvested.id? harvested.assetEvent?

end Harvested

namespace Harvest

/-- What an event is emitted with, or why it is skipped. -/
def verdict (options : HarvestOptions) (source : SourceEvent) :
    Except SkipReason (Option Record.AssetEvent) :=
  if source.isCandidate then
    if options.decodeAssetEvents then
      match AssetEvent.classify source.event with
      | .recognized kind =>
        match AssetEvent.decode kind source.event options.network with
        | .ok decoded => .ok (some decoded)
        | .error malformed => .error (.malformed malformed)
      | _ => .ok none
    else .ok none
  else .error .notCandidate

/-- Harvests events after some number of events was emitted. -/
def operationFrom (operation : Toid) (options : HarvestOptions) (emitted : UInt32) :
    List SourceEvent → List Harvested
  | [] => []
  | source :: sources =>
    match verdict options source with
    | .ok assetEvent =>
      .emitted ⟨operation, emitted + 1⟩ source.event assetEvent
        :: operationFrom operation options (emitted + 1) sources
    | .error reason =>
      .skipped source.event reason :: operationFrom operation options emitted sources

/-- Harvests the events of an operation. -/
def operation (operation : Toid) (options : HarvestOptions) (sources : List SourceEvent) :
    List Harvested :=
  operationFrom operation options 0 sources

end Harvest

end LedgerExport
