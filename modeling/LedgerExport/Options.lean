import LedgerExport.Harvest
import LedgerExport.Render.Entry

/-!
# Options of an export

What a document shows beyond the ledgers themselves.
-/

namespace LedgerExport

/-- The choices of an export. -/
structure ExportOptions where
  network : NetworkId
  includeLedgerChanges : Bool
  decodeAssetEvents : Bool
  includeDiagnosticEvents : Bool
  useDiagnosticEvents : Bool

namespace ExportOptions

/-- Everything is shown; the events of operations are not taken from the diagnostic ones. -/
def ofNetwork (network : NetworkId) : ExportOptions where
  network := network
  includeLedgerChanges := true
  decodeAssetEvents := true
  includeDiagnosticEvents := true
  useDiagnosticEvents := false

/-- How events are harvested. -/
def harvest (options : ExportOptions) : HarvestOptions where
  decodeAssetEvents := options.decodeAssetEvents
  network := some options.network

/-- Changes, if they are shown. -/
def changes (options : ExportOptions) (changes : List Protocol.EntryChange) :
    Option (List Record.EntryChange) :=
  if options.includeLedgerChanges then some (changes.map (·.render)) else none

/-- Diagnostic events, if they are shown. -/
def diagnostics (options : ExportOptions) (events : List Protocol.DiagnosticEvent) :
    List Record.DiagnosticEvent :=
  if options.includeDiagnosticEvents then events.map (·.render) else []

end ExportOptions

end LedgerExport
