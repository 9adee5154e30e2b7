import LedgerExport.Proofs.Position.EventId
import LedgerExport.Proofs.Position.Toid
import LedgerExport.Proofs.Protocol.EventBounds
import LedgerExport.Proofs.Render.EventSources

/-!
# The identifiers of a ledger

The metadata works out the places of operations for the identifiers, and the
records of operations work them out again. Both count operations from 1 in the
same transaction, so the identifiers in a record have its own place, and they
are numbered 1, 2, 3 and so on. Along a ledger they increase.

## Implementation notes

The events of an operation are those that the metadata holds for it, harvested
at the place of the record. So the places need no comparison, and only the
number of events has to be bounded.
-/

namespace LedgerExport

/-! ## Numbered identifiers -/

namespace EventId

/-- Identifiers at one place, with orders from 1 on. -/
structure Numbered (place : Toid) (ids : List EventId) : Prop where
  operation : ∀ id ∈ ids, id.operation = place
  order : ids.map (·.order.toNat) = List.range' 1 ids.length

variable {place : Toid}

theorem numbered_nil : Numbered place [] :=
  ⟨by simp, rfl⟩

theorem Numbered.pairwise_lt {ids : List EventId} (h : Numbered place ids) :
    ids.Pairwise (· < ·) := by
  have horder : (ids.map (·.order.toNat)).Pairwise (· < ·) := by
    rw [h.order]
    exact List.pairwise_lt_range'
  refine (List.pairwise_map.mp horder).imp_of_mem ?_
  intro a b ha hb hlt
  exact .inr ⟨(h.operation a ha).trans (h.operation b hb).symm, UInt32.lt_iff_toNat_lt.mpr hlt⟩

theorem numbered_harvest {options : HarvestOptions} {sources : List SourceEvent}
    (h : sources.length ≤ Xdr.unlimited) :
    Numbered place (Harvested.ids (Harvest.operation place options sources)) where
  operation := by
    intro id hid
    obtain ⟨j, hj⟩ := List.mem_iff_getElem?.mp hid
    exact (Harvest.order_of_getElem?_ids place options h hj).1
  order := by
    apply List.ext_getElem
    · rw [List.length_map, List.length_range']
    · intro j hj hj'
      rw [List.length_map] at hj
      have hget := List.getElem?_eq_getElem hj
      rw [List.getElem_map, (Harvest.order_of_getElem?_ids place options h hget).2,
        List.getElem_range', Nat.one_mul, Nat.add_comm]

end EventId

open EventId (Numbered)

namespace Record

/-- The identifiers of some events, in order. -/
def ContractEvent.ids (events : List ContractEvent) : List EventId :=
  events.filterMap (·.id)

/-- The identifiers of an operation, along its events. -/
def OperationRecord.eventIds (record : OperationRecord) : List EventId :=
  ContractEvent.ids record.events

/-- The identifiers of a transaction, along its operations. -/
def TransactionRecord.eventIds (record : TransactionRecord) : List EventId :=
  record.operations.flatMap (·.eventIds)

/-- The identifiers of a ledger, along its transactions. -/
def LedgerRecord.eventIds (record : LedgerRecord) : List EventId :=
  record.transactions.flatMap (·.eventIds)

end Record

open Record (ContractEvent.ids)

/-! ## The events of operations -/

theorem ids_map_render (outcomes : List Harvested) :
    ContractEvent.ids (outcomes.map (·.render)) = Harvested.ids outcomes := by
  rw [ContractEvent.ids, List.filterMap_map]
  rfl

theorem ids_map_event_render (sources : List SourceEvent) :
    ContractEvent.ids (sources.map (·.event.render)) = [] := by
  rw [ContractEvent.ids, List.filterMap_map, List.filterMap_eq_nil_iff]
  exact fun _ _ => rfl

/-- The events of an operation are numbered at its place, or have no identifiers. -/
theorem numbered_operationEvents {options : ExportOptions} {successful : Bool} {place : Toid}
    {sources : List SourceEvent} (h : sources.length ≤ Xdr.unlimited) :
    Numbered place (ContractEvent.ids (operationEvents options successful place sources)) := by
  unfold operationEvents
  split
  · rw [ids_map_render]
    exact EventId.numbered_harvest h
  · rw [ids_map_event_render]
    exact EventId.numbered_nil

/-! ## Events of the metadata -/

variable {options : ExportOptions}

theorem Protocol.SorobanMeta.length_sources_le {soroban : SorobanMeta} (h : soroban.EventsFit) :
    (soroban.sources options).length ≤ Xdr.unlimited := by
  unfold sources
  split
  · rw [List.length_map]
    exact h.diagnosticEvents
  · rw [List.length_map]
    exact h.events

/-- In every version of the metadata, no operation has more events than a list may hold. -/
theorem Protocol.TransactionMeta.length_sources_le {applied : TransactionMeta}
    (hfit : applied.EventsFit) :
    ∀ sources ∈ applied.sources options, sources.length ≤ Xdr.unlimited := by
  cases applied with
  | v0 operations => exact List.forall_mem_nil _
  | v1 parts => exact List.forall_mem_nil _
  | v2 parts => exact List.forall_mem_nil _
  | v3 parts =>
      intro sources hsources
      obtain ⟨soroban, hsoroban, rfl⟩ := Option.map_eq_some_iff.mp (Option.mem_toList.mp hsources)
      exact SorobanMeta.length_sources_le (hfit soroban hsoroban)
  | v4 parts =>
      intro sources hsources
      obtain ⟨operation, hoperation, rfl⟩ := List.mem_map.mp hsources
      rw [List.length_map]
      exact hfit operation hoperation

/-! ## Records -/

/-- The operation is the one at a place of a transaction, and its events are numbered there. -/
structure Record.OperationRecord.PlacedAt (ledger transaction order : Nat)
    (record : OperationRecord) : Prop where
  toid : Toid.make ledger transaction order = .ok record.toid
  numbered : Numbered record.toid record.eventIds

/-- The operations of the transactions of a ledger stand at their places, which count from 1. -/
def Record.LedgerRecord.Placed (ledger : Nat) (record : LedgerRecord) : Prop :=
  ∀ (i : Nat) (transaction : TransactionRecord), record.transactions[i]? = some transaction →
    ∀ (j : Nat) (operation : OperationRecord), transaction.operations[j]? = some operation →
      operation.PlacedAt ledger (i + 1) (j + 1)

theorem TransactionClosing.placedAt_render {ledger order j : Nat} {closing : TransactionClosing}
    {record : Record.TransactionRecord} {operation : Record.OperationRecord}
    (hfit : closing.applied.EventsFit) (h : closing.render options ledger order = .ok record)
    (hj : record.operations[j]? = some operation) :
    operation.PlacedAt ledger order (j + 1) := by
  have hplace : Toid.make ledger order (j + 1) = .ok operation.toid := by
    obtain ⟨transaction, rendered, htoid, -, -, -, hoperations⟩ := exists_of_render h
    obtain ⟨place, hplace, rfl⟩ := exists_of_getElem?_operationRecords hoperations hj
    rwa [Toid.atOperation_of_ofTransaction htoid, Nat.add_comm] at hplace
  have hlength : ((closing.applied.sources options)[j]?.getD []).length ≤ Xdr.unlimited := by
    cases hsources : (closing.applied.sources options)[j]? with
    | none => exact Nat.zero_le _
    | some sources =>
        exact Protocol.TransactionMeta.length_sources_le hfit sources
          (List.mem_of_getElem? hsources)
  refine ⟨hplace, ?_⟩
  rw [Record.OperationRecord.eventIds, events_render h hj]
  exact numbered_operationEvents hlength

/-- The operations of a shown ledger stand at their places. -/
theorem LedgerClosing.placed_render {closing : LedgerClosing} {record : Record.LedgerRecord}
    (hfit : ∀ transaction ∈ closing.transactions, transaction.applied.EventsFit)
    (h : closing.render options = .ok record) : record.Placed closing.sequence.toNat := by
  intro i transaction hi j operation hj
  obtain ⟨applied, happlied, hrender⟩ := exists_of_getElem?_transactions h hi
  exact applied.placedAt_render (hfit applied (List.mem_of_getElem? happlied)) hrender hj

/-! ## The identifiers of a ledger -/

namespace Record

variable {ledger : Nat}

/-- Operations that stand in order have identifiers in order. -/
theorem OperationRecord.PlacedAt.lt {transaction order transaction' order' : Nat}
    {record record' : OperationRecord} (h : record.PlacedAt ledger transaction order)
    (h' : record'.PlacedAt ledger transaction' order')
    (hlt : transaction < transaction' ∨ transaction = transaction' ∧ order < order')
    {a b : EventId} (ha : a ∈ record.eventIds) (hb : b ∈ record'.eventIds) : a < b := by
  left
  rw [h.numbered.operation a ha, h'.numbered.operation b hb]
  exact Toid.raw_lt_of_make h.toid h'.toid hlt

/-- The identifiers of a ledger increase. -/
theorem LedgerRecord.Placed.pairwise_lt {record : LedgerRecord} (h : record.Placed ledger) :
    record.eventIds.Pairwise (· < ·) := by
  rw [eventIds, List.pairwise_flatMap]
  constructor
  · intro transaction htransaction
    obtain ⟨i, hi⟩ := List.mem_iff_getElem?.mp htransaction
    rw [TransactionRecord.eventIds, List.pairwise_flatMap]
    constructor
    · intro operation hoperation
      obtain ⟨j, hj⟩ := List.mem_iff_getElem?.mp hoperation
      exact (h i transaction hi j operation hj).numbered.pairwise_lt
    · rw [List.pairwise_iff_getElem]
      intro j k hj hk hjk a ha b hb
      have hfirst := h i transaction hi j _ (List.getElem?_eq_getElem hj)
      have hsecond := h i transaction hi k _ (List.getElem?_eq_getElem hk)
      exact hfirst.lt hsecond (.inr ⟨rfl, Nat.succ_lt_succ hjk⟩) ha hb
  · rw [List.pairwise_iff_getElem]
    intro i k hi hk hik a ha b hb
    obtain ⟨first, hfirst, ha⟩ := List.mem_flatMap.mp ha
    obtain ⟨second, hsecond, hb⟩ := List.mem_flatMap.mp hb
    obtain ⟨j, hj⟩ := List.mem_iff_getElem?.mp hfirst
    obtain ⟨l, hl⟩ := List.mem_iff_getElem?.mp hsecond
    have hfirst := h i _ (List.getElem?_eq_getElem hi) j first hj
    have hsecond := h k _ (List.getElem?_eq_getElem hk) l second hl
    exact hfirst.lt hsecond (.inl (Nat.succ_lt_succ hik)) ha hb

/-- All identifiers of a ledger have places in it. -/
theorem LedgerRecord.Placed.ledger_of_mem {record : LedgerRecord} (h : record.Placed ledger)
    {id : EventId} (hid : id ∈ record.eventIds) : id.operation.ledger = ledger := by
  obtain ⟨transaction, htransaction, hid⟩ := List.mem_flatMap.mp hid
  obtain ⟨operation, hoperation, hid⟩ := List.mem_flatMap.mp hid
  obtain ⟨i, hi⟩ := List.mem_iff_getElem?.mp htransaction
  obtain ⟨j, hj⟩ := List.mem_iff_getElem?.mp hoperation
  have hplaced := h i transaction hi j operation hj
  rw [hplaced.numbered.operation id hid]
  exact Toid.ledger_of_make hplaced.toid

end Record

end LedgerExport
