import LedgerExport.Proofs.Xdr.Reading
import LedgerExport.Protocol.Ledger

/-!
# How many events there may be

The lists of events in the metadata of a transaction are as long as a list of
the schema may be. Whatever is read from bytes keeps to this.
-/

namespace LedgerExport.Protocol

open Xdr Xdr.Decoder Xdr.Layout

/-- The events of a contract call keep to the limit of the schema. -/
structure SorobanMeta.EventsFit (soroban : SorobanMeta) : Prop where
  events : soroban.events.length ≤ unlimited
  diagnosticEvents : soroban.diagnosticEvents.length ≤ unlimited

/-- The events that belong to operations keep to the limit of the schema. -/
def TransactionMeta.EventsFit : TransactionMeta → Prop
  | .v3 parts => ∀ soroban ∈ parts.soroban, soroban.EventsFit
  | .v4 parts => ∀ operation ∈ parts.operations, operation.events.length ≤ unlimited
  | _ => True

theorem promises_many_length {α : Type} (codec : Codec α) :
    (many codec).read.Promises fun values => values.length ≤ unlimited :=
  (promises_list (promises_true codec.read) unlimited).imp fun _ h => h.1

theorem SorobanMeta.promises_eventsFit : SorobanMeta.layout.read.Promises EventsFit := by
  refine promises_field (promises_many_length DiagnosticEvent.layout) ?_
  refine promises_other_field ?_
  refine promises_field (promises_many_length ContractEvent.layout) ?_
  refine promises_other_field (promises_make ?_)
  exact fun _ _ hevents _ _ hdiagnostic => ⟨hevents, hdiagnostic⟩

theorem TransactionMetaV3.promises_eventsFit :
    TransactionMetaV3.layout.read.Promises fun parts =>
      ∀ soroban ∈ parts.soroban, soroban.EventsFit := by
  refine promises_field (promises_extension SorobanMeta.promises_eventsFit 1) ?_
  refine promises_other_field (promises_other_field (promises_other_field ?_))
  exact promises_mark (promises_make fun _ _ _ _ hsoroban => hsoroban) 0

theorem OperationMetaV2.promises_eventsFit :
    OperationMetaV2.layout.read.Promises fun operation => operation.events.length ≤ unlimited := by
  refine promises_field (promises_many_length ContractEvent.layout) ?_
  refine promises_other_field ?_
  exact promises_mark (promises_make fun _ _ hevents => hevents) 0

theorem TransactionMetaV4.promises_eventsFit :
    TransactionMetaV4.layout.read.Promises fun parts =>
      ∀ operation ∈ parts.operations, operation.events.length ≤ unlimited := by
  refine promises_other_field (promises_other_field (promises_other_field ?_))
  refine promises_other_field ?_
  refine promises_field (promises_list OperationMetaV2.promises_eventsFit unlimited) ?_
  refine promises_other_field ?_
  exact promises_mark (promises_make fun _ _ hoperations _ _ _ _ => hoperations.2) 0

/-- Metadata that was read keeps to the limit of the schema. -/
theorem TransactionMeta.promises_eventsFit : TransactionMeta.layout.read.Promises EventsFit := by
  refine promises_union fun tag => ?_
  split
  · exact (promises_true _).map fun _ _ => trivial
  · exact (promises_true _).map fun _ _ => trivial
  · exact (promises_true _).map fun _ _ => trivial
  · exact TransactionMetaV3.promises_eventsFit.map fun _ h => h
  · exact TransactionMetaV4.promises_eventsFit.map fun _ h => h
  · exact promises_throw .invalidValue

theorem Processing.promises_eventsFit :
    Processing.layout.read.Promises fun processing => processing.applied.EventsFit := by
  refine promises_field TransactionMeta.promises_eventsFit ?_
  exact promises_other_field (promises_other_field (promises_make fun _ _ _ happlied => happlied))

theorem ProcessingV1.promises_eventsFit :
    ProcessingV1.layout.read.Promises fun processing => processing.applied.EventsFit := by
  refine promises_other_field (promises_field TransactionMeta.promises_eventsFit ?_)
  refine promises_other_field (promises_other_field ?_)
  exact promises_mark (promises_make fun _ _ _ happlied _ => happlied) 0

/-- All metadata of a report keeps to the limit of the schema. -/
def LedgerClose.EventsFit : LedgerClose → Prop
  | .v0 report => ∀ processing ∈ report.processing, processing.applied.EventsFit
  | .v1 report => ∀ processing ∈ report.processing, processing.applied.EventsFit
  | .v2 report => ∀ processing ∈ report.processing, processing.applied.EventsFit

theorem LedgerCloseV0.promises_eventsFit :
    LedgerCloseV0.layout.read.Promises fun report =>
      ∀ processing ∈ report.processing, processing.applied.EventsFit := by
  refine promises_other_field (promises_other_field ?_)
  refine promises_field (promises_list Processing.promises_eventsFit unlimited) ?_
  refine promises_other_field (promises_other_field (promises_make ?_))
  exact fun _ _ _ hprocessing _ _ => hprocessing.2

theorem LedgerCloseV1.promises_eventsFit :
    LedgerCloseV1.layout.read.Promises fun report =>
      ∀ processing ∈ report.processing, processing.applied.EventsFit := by
  refine promises_other_field (promises_other_field (promises_other_field ?_))
  refine promises_other_field (promises_other_field ?_)
  refine promises_field (promises_list Processing.promises_eventsFit unlimited) ?_
  refine promises_other_field (promises_other_field (promises_other_field (promises_make ?_)))
  exact fun _ _ _ _ hprocessing _ _ _ _ _ => hprocessing.2

theorem LedgerCloseV2.promises_eventsFit :
    LedgerCloseV2.layout.read.Promises fun report =>
      ∀ processing ∈ report.processing, processing.applied.EventsFit := by
  refine promises_other_field (promises_other_field (promises_other_field ?_))
  refine promises_other_field ?_
  refine promises_field (promises_list ProcessingV1.promises_eventsFit unlimited) ?_
  refine promises_other_field (promises_other_field (promises_other_field (promises_make ?_)))
  exact fun _ _ _ _ hprocessing _ _ _ _ => hprocessing.2

/-- A report that was read keeps to the limit of the schema. -/
theorem LedgerClose.promises_eventsFit : LedgerClose.layout.read.Promises EventsFit := by
  refine promises_union fun tag => ?_
  split
  · exact LedgerCloseV0.promises_eventsFit.map fun _ h => h
  · exact LedgerCloseV1.promises_eventsFit.map fun _ h => h
  · exact LedgerCloseV2.promises_eventsFit.map fun _ h => h
  · exact promises_throw .invalidValue

end LedgerExport.Protocol
