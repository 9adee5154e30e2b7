import LedgerExport.Proofs.Harvest.Outcome
import LedgerExport.Render.Ledger

/-!
# Where the events of a record come from

The events of an operation are those that the metadata holds for it, one by one.
A harvest marks some of them with identifiers and asset events, and it takes
place only in a transaction that succeeded. The events that belong to no
operation are shown as they are.

## Implementation notes

The third version of the metadata holds the events of the first operation beside
the operations. `TransactionMeta.sources` lists by operation what each version
holds, and leaves out operations behind the last one that has events.
-/

namespace LedgerExport

namespace Record

/-! ## Events of a record -/

namespace ContractEvent

/-- An event without the marks of a harvest. -/
def cleared (event : ContractEvent) : ContractEvent :=
  { event with id := none, assetEvent := none }

/-- No harvest has marked the event. -/
structure Unmarked (event : ContractEvent) : Prop where
  id : event.id = none
  assetEvent : event.assetEvent = none

end ContractEvent

/-- The events of a transaction that belong to no operation. -/
def TransactionMeta.outerEvents (p : TransactionMeta) : List ContractEvent :=
  p.events.map (·.event) ++ p.diagnosticEvents.map (·.event)

/-- All events of a transaction. -/
def TransactionRecord.allEvents (record : TransactionRecord) : List ContractEvent :=
  record.applied.outerEvents ++ record.operations.flatMap (·.events)

/-- All events of a ledger. -/
def LedgerRecord.allEvents (record : LedgerRecord) : List ContractEvent :=
  record.transactions.flatMap (·.allEvents)

theorem TransactionRecord.mem_allEvents {record : TransactionRecord} {event : ContractEvent} :
    event ∈ record.allEvents ↔
      event ∈ record.applied.outerEvents ∨
        ∃ operation ∈ record.operations, event ∈ operation.events := by
  rw [allEvents, List.mem_append, List.mem_flatMap]

end Record

/-! ## What metadata holds -/

namespace Protocol

theorem ContractEvent.unmarked_render (p : ContractEvent) : p.render.Unmarked := ⟨rfl, rfl⟩

/-- The events that metadata holds for the operations of a transaction, by operation. -/
def TransactionMeta.sources (options : ExportOptions) : TransactionMeta → List (List SourceEvent)
  | .v0 _ => []
  | .v1 _ => []
  | .v2 _ => []
  | .v3 p => (p.soroban.map (·.sources options)).toList
  | .v4 p => p.operations.map fun operation => operation.events.map .ofContract

/-- The diagnostic events that are shown. -/
def shownDiagnostics (options : ExportOptions) (events : List DiagnosticEvent) :
    List ContractEvent :=
  if options.includeDiagnosticEvents then events.map (·.event) else []

/-- The events that metadata holds for no operation, as far as they are shown. -/
def TransactionMeta.outerSources (options : ExportOptions) : TransactionMeta → List ContractEvent
  | .v0 _ => []
  | .v1 _ => []
  | .v2 _ => []
  | .v3 p => p.soroban.elim [] fun soroban => shownDiagnostics options soroban.diagnosticEvents
  | .v4 p => p.events.map (·.event) ++ shownDiagnostics options p.diagnosticEvents

end Protocol

variable {options : ExportOptions} {successful : Bool} {transaction place : Toid}

/-! ## The events of an operation -/

section OperationEvents

variable {sources : List SourceEvent}

theorem operationEvents_nil (options : ExportOptions) (successful : Bool) (place : Toid) :
    operationEvents options successful place [] = [] := by
  unfold operationEvents
  split
  · rfl
  · rfl

theorem operationEvents_unsuccessful (options : ExportOptions) (place : Toid)
    (sources : List SourceEvent) :
    operationEvents options false place sources = sources.map (·.event.render) := rfl

/-- But for its marks, an event is shown as it is, whether there was a harvest or not. -/
theorem map_cleared_operationEvents (options : ExportOptions) (successful : Bool) (place : Toid)
    (sources : List SourceEvent) :
    (operationEvents options successful place sources).map (·.cleared) =
      sources.map (·.event.render) := by
  unfold operationEvents
  split
  · calc
      ((Harvest.operation place options.harvest sources).map (·.render)).map (·.cleared) =
          ((Harvest.operation place options.harvest sources).map (·.event)).map (·.render) := by
        rw [List.map_map, List.map_map]
        rfl
      _ = (sources.map (·.event)).map (·.render) := by
        rw [Harvest.operation, Harvest.map_event_operationFrom]
      _ = sources.map (·.event.render) := List.map_map
  · rw [List.map_map]
    rfl

/-- An event is marked only in a transaction that succeeded, by the verdict on its source. -/
theorem unmarked_or_of_mem_operationEvents {event : Record.ContractEvent}
    (h : event ∈ operationEvents options successful place sources) :
    event.Unmarked ∨ successful = true ∧ ∃ source ∈ sources, ∃ id assetEvent,
      Harvest.verdict options.harvest source = .ok assetEvent ∧
        event = source.event.renderWith (some id) assetEvent := by
  unfold operationEvents at h
  split at h
  · next hsuccessful =>
      obtain ⟨harvested, hharvested, rfl⟩ := List.mem_map.mp h
      obtain ⟨source, hsource, id, rfl⟩ := Harvest.exists_of_mem_operationFrom hharvested
      cases hverdict : Harvest.verdict options.harvest source with
      | ok assetEvent =>
          exact .inr ⟨hsuccessful, source, hsource, id, assetEvent, hverdict, rfl⟩
      | error reason => exact .inl source.event.unmarked_render
  · obtain ⟨source, -, rfl⟩ := List.mem_map.mp h
    exact .inl source.event.unmarked_render

end OperationEvents

/-! ## Parts of the metadata -/

/-- The part of an operation; nothing is known behind the last one. -/
def partAt (parts : List OperationPart) (j : Nat) : OperationPart :=
  parts[j]?.getD .empty

namespace Protocol

theorem events_partAt_map_part (options : ExportOptions) (operations : List OperationMeta)
    (j : Nat) : (partAt (operations.map (OperationMeta.part options)) j).events = [] := by
  rw [partAt, List.getElem?_map]
  cases operations[j]? with
  | none => rfl
  | some operation => rfl

theorem events_partAt_giveToFirst (options : ExportOptions) (events : List Record.ContractEvent)
    (operations : List OperationMeta) (j : Nat) :
    (partAt (giveToFirst events (operations.map (OperationMeta.part options))) j).events =
      [events][j]?.getD [] := by
  cases operations with
  | nil =>
      cases j with
      | zero => rfl
      | succ j => rfl
  | cons operation more =>
      cases j with
      | zero => rfl
      | succ j => exact events_partAt_map_part options more j

theorem events_partAt_operationParts {order : Nat} {operations : List OperationMetaV2}
    {parts : List OperationPart}
    (h : operationParts options successful transaction order operations = .ok parts) {j : Nat}
    (hplace : transaction.atOperation (order + j) = .ok place) :
    (partAt parts j).events = operationEvents options successful place
      ((operations.map fun operation => operation.events.map .ofContract)[j]?.getD []) := by
  induction operations generalizing order parts j with
  | nil =>
      cases h
      exact (operationEvents_nil options successful place).symm
  | cons operation more ih =>
      obtain ⟨first, hfirst, h⟩ := bind_eq_ok_iff.mp h
      obtain ⟨rest, hrest, h⟩ := bind_eq_ok_iff.mp h
      rw [← pure_eq_ok_iff.mp h]
      cases j with
      | zero =>
          rw [Nat.add_zero, hfirst] at hplace
          cases hplace
          rfl
      | succ j =>
          apply ih hrest
          rwa [Nat.add_assoc, Nat.add_comm 1 j]

/-- The third version is shown without a contract call, or with one whose events go to the first
operation. -/
theorem TransactionMeta.render_v3_cases {parts : TransactionMetaV3} {rendered : RenderedMeta}
    (h : (TransactionMeta.v3 parts).render options successful transaction = .ok rendered) :
    (parts.soroban = none ∧
      rendered = ⟨⟨3, options.changes parts.changesBefore, options.changes parts.changesAfter, [],
          [], none⟩,
        parts.operations.map (·.part options)⟩) ∨
    ∃ soroban first, parts.soroban = some soroban ∧ transaction.atOperation 1 = .ok first ∧
      rendered = ⟨⟨3, options.changes parts.changesBefore, options.changes parts.changesAfter, [],
          options.diagnostics soroban.diagnosticEvents,
          some ⟨some soroban.returnValue.render, soroban.fees.map (·.render)⟩⟩,
        giveToFirst (operationEvents options successful first (soroban.sources options))
          (parts.operations.map (·.part options))⟩ := by
  simp only [render] at h
  split at h
  · next hsoroban => exact .inl ⟨hsoroban, (Except.ok.inj h).symm⟩
  · next soroban hsoroban =>
      obtain ⟨first, hfirst, h⟩ := bind_eq_ok_iff.mp h
      exact .inr ⟨soroban, first, hsoroban, hfirst, (pure_eq_ok_iff.mp h).symm⟩

/-- In every version of the metadata, a part has the events that it holds for the operation. -/
theorem TransactionMeta.events_render {applied : TransactionMeta} {rendered : RenderedMeta}
    (h : applied.render options successful transaction = .ok rendered) {j : Nat}
    (hplace : transaction.atOperation (1 + j) = .ok place) :
    (partAt rendered.operations j).events = operationEvents options successful place
      ((applied.sources options)[j]?.getD []) := by
  -- The oldest versions hold no events, and showing none is no harvest, so the place is free.
  have hnone : operationEvents options successful place (([] : List (List SourceEvent))[j]?.getD [])
      = [] := operationEvents_nil options successful place
  cases applied with
  | v0 operations =>
      cases h
      exact (events_partAt_map_part options operations j).trans hnone.symm
  | v1 parts =>
      cases h
      exact (events_partAt_map_part options parts.operations j).trans hnone.symm
  | v2 parts =>
      cases h
      exact (events_partAt_map_part options parts.operations j).trans hnone.symm
  | v3 parts =>
      rcases render_v3_cases h with ⟨hsoroban, rfl⟩ | ⟨soroban, first, hsoroban, hfirst, rfl⟩
      · rw [sources, hsoroban]
        exact (events_partAt_map_part options parts.operations j).trans hnone.symm
      · rw [sources, hsoroban, events_partAt_giveToFirst]
        cases j with
        | zero =>
            rw [Nat.add_zero, hfirst] at hplace
            cases hplace
            rfl
        | succ j => exact hnone.symm
  | v4 parts =>
      obtain ⟨operations, hoperations, h⟩ := bind_eq_ok_iff.mp h
      rw [← pure_eq_ok_iff.mp h]
      exact events_partAt_operationParts hoperations hplace

theorem events_diagnostics (events : List DiagnosticEvent) :
    (options.diagnostics events).map (·.event) =
      (shownDiagnostics options events).map (·.render) := by
  unfold ExportOptions.diagnostics shownDiagnostics
  split
  · rw [List.map_map, List.map_map]
    rfl
  · rfl

/-- In every version of the metadata, the events of no operation are shown as they are. -/
theorem TransactionMeta.outerEvents_render {applied : TransactionMeta} {rendered : RenderedMeta}
    (h : applied.render options successful transaction = .ok rendered) :
    rendered.whole.outerEvents = (applied.outerSources options).map (·.render) := by
  cases applied with
  | v0 operations =>
      cases h
      rfl
  | v1 parts =>
      cases h
      rfl
  | v2 parts =>
      cases h
      rfl
  | v3 parts =>
      rcases render_v3_cases h with ⟨hsoroban, rfl⟩ | ⟨soroban, first, hsoroban, -, rfl⟩
      · rw [outerSources, hsoroban]
        rfl
      · rw [outerSources, hsoroban]
        exact events_diagnostics soroban.diagnosticEvents
  | v4 parts =>
      obtain ⟨operations, -, h⟩ := bind_eq_ok_iff.mp h
      rw [← pure_eq_ok_iff.mp h, outerSources, List.map_append, ← events_diagnostics, List.map_map]
      rw [Record.TransactionMeta.outerEvents, List.map_map]
      rfl

end Protocol

/-! ## Records of operations -/

/-- The record of an operation stands at its place and takes over the result and the part there. -/
theorem exists_of_getElem?_operationRecords {order count : Nat}
    {results : List Record.OperationResult} {parts : List OperationPart}
    {records : List Record.OperationRecord}
    (h : operationRecords transaction order count results parts = .ok records) {j : Nat}
    {record : Record.OperationRecord} (hj : records[j]? = some record) :
    ∃ toid, transaction.atOperation (order + j) = .ok toid ∧
      record = ⟨toid, UInt32.ofNat (order + j), results[j]?, (partAt parts j).changes,
        (partAt parts j).events⟩ := by
  -- Results and parts move on with the places, so what is left of them is that of the next record.
  induction count generalizing order results parts records j with
  | zero =>
      cases h
      cases hj
  | succ count ih =>
      obtain ⟨toid, hplace, h⟩ := bind_eq_ok_iff.mp h
      obtain ⟨more, hmore, h⟩ := bind_eq_ok_iff.mp h
      rw [← pure_eq_ok_iff.mp h] at hj
      cases j with
      | zero =>
          obtain rfl := Option.some.inj hj
          refine ⟨toid, hplace, ?_⟩
          cases parts <;> cases results <;> rfl
      | succ j =>
          obtain ⟨toid', hplace', hrecord⟩ := ih hmore hj
          have horder : order + 1 + j = order + (j + 1) := by omega
          rw [horder] at hplace' hrecord
          refine ⟨toid', hplace', ?_⟩
          rw [hrecord]
          cases parts <;> cases results <;> rfl

/-! ## Records of transactions -/

/-- The record of a transaction is put together from its result, its metadata and its
operations. -/
theorem TransactionClosing.exists_of_render {ledger order : Nat} {closing : TransactionClosing}
    {record : Record.TransactionRecord} (h : closing.render options ledger order = .ok record) :
    ∃ toid rendered, Toid.ofTransaction ledger order = .ok toid ∧
      record.successful = record.result.isSuccess ∧
      closing.applied.render options record.successful toid = .ok rendered ∧
      record.applied = rendered.whole ∧
      operationRecords toid 1 closing.envelope.operations.length
        (record.result.effectiveResults.getD []) rendered.operations = .ok record.operations := by
  obtain ⟨toid, htoid, h⟩ := bind_eq_ok_iff.mp h
  obtain ⟨result, -, h⟩ := bind_eq_ok_iff.mp h
  obtain ⟨rendered, hrendered, h⟩ := bind_eq_ok_iff.mp h
  obtain ⟨operations, hoperations, h⟩ := bind_eq_ok_iff.mp h
  rw [← pure_eq_ok_iff.mp h]
  exact ⟨toid, rendered, htoid, rfl, hrendered, rfl, hoperations⟩

/-- The events of an operation are those that the metadata holds for it. -/
theorem TransactionClosing.events_render {ledger order : Nat} {closing : TransactionClosing}
    {record : Record.TransactionRecord} (h : closing.render options ledger order = .ok record)
    {j : Nat} {operation : Record.OperationRecord} (hj : record.operations[j]? = some operation) :
    operation.events = operationEvents options record.successful operation.toid
      ((closing.applied.sources options)[j]?.getD []) := by
  obtain ⟨toid, rendered, -, -, hrendered, -, hoperations⟩ := exists_of_render h
  obtain ⟨place, hplace, rfl⟩ := exists_of_getElem?_operationRecords hoperations hj
  exact Protocol.TransactionMeta.events_render hrendered hplace

theorem TransactionClosing.outerEvents_render {ledger order : Nat} {closing : TransactionClosing}
    {record : Record.TransactionRecord} (h : closing.render options ledger order = .ok record) :
    record.applied.outerEvents = (closing.applied.outerSources options).map (·.render) := by
  obtain ⟨toid, rendered, -, -, hrendered, hwhole, -⟩ := exists_of_render h
  rw [hwhole]
  exact Protocol.TransactionMeta.outerEvents_render hrendered

theorem TransactionClosing.unmarked_of_mem_outerEvents {ledger order : Nat}
    {closing : TransactionClosing} {record : Record.TransactionRecord}
    (h : closing.render options ledger order = .ok record) :
    ∀ event ∈ record.applied.outerEvents, event.Unmarked := by
  intro event hevent
  rw [outerEvents_render h] at hevent
  obtain ⟨source, -, rfl⟩ := List.mem_map.mp hevent
  exact source.unmarked_render

/-- An event of a transaction is marked only if it belongs to an operation and the transaction
succeeded, by the verdict on its source. -/
theorem TransactionClosing.unmarked_or_of_mem_allEvents {ledger order : Nat}
    {closing : TransactionClosing} {record : Record.TransactionRecord}
    (h : closing.render options ledger order = .ok record) {event : Record.ContractEvent}
    (hevent : event ∈ record.allEvents) :
    event.Unmarked ∨ record.successful = true ∧ ∃ (source : SourceEvent) (id : EventId)
      (assetEvent : Option Record.AssetEvent),
        Harvest.verdict options.harvest source = .ok assetEvent ∧
          event = source.event.renderWith (some id) assetEvent := by
  rcases Record.TransactionRecord.mem_allEvents.mp hevent with hevent | ⟨operation, hmem, hevent⟩
  · exact .inl (unmarked_of_mem_outerEvents h event hevent)
  · obtain ⟨j, hj⟩ := List.mem_iff_getElem?.mp hmem
    rw [events_render h hj] at hevent
    refine (unmarked_or_of_mem_operationEvents hevent).imp_right ?_
    rintro ⟨hsuccessful, source, -, hmarks⟩
    exact ⟨hsuccessful, source, hmarks⟩

/-! ## Records of ledgers -/

/-- The records of transactions come from the transactions, one by one, at places from one on. -/
theorem exists_of_getElem?_transactionRecords {ledger order : Nat}
    {closings : List TransactionClosing} {records : List Record.TransactionRecord}
    (h : transactionRecords options ledger order closings = .ok records) {i : Nat}
    {record : Record.TransactionRecord} (hi : records[i]? = some record) :
    ∃ closing, closings[i]? = some closing ∧
      closing.render options ledger (order + i) = .ok record := by
  induction closings generalizing order records i with
  | nil =>
      cases h
      cases hi
  | cons closing closings ih =>
      obtain ⟨first, hfirst, h⟩ := bind_eq_ok_iff.mp h
      obtain ⟨more, hmore, h⟩ := bind_eq_ok_iff.mp h
      rw [← pure_eq_ok_iff.mp h] at hi
      cases i with
      | zero =>
          obtain rfl := Option.some.inj hi
          exact ⟨closing, rfl, hfirst⟩
      | succ i =>
          have hrest := ih hmore hi
          rwa [Nat.add_assoc, Nat.add_comm 1 i] at hrest

/-- The transactions of a ledger are shown in order, at places from 1 on. -/
theorem LedgerClosing.exists_of_getElem?_transactions {closing : LedgerClosing}
    {record : Record.LedgerRecord} (h : closing.render options = .ok record) {i : Nat}
    {transaction : Record.TransactionRecord} (hi : record.transactions[i]? = some transaction) :
    ∃ applied, closing.transactions[i]? = some applied ∧
      applied.render options closing.sequence.toNat (i + 1) = .ok transaction := by
  obtain ⟨transactions, htransactions, h⟩ := bind_eq_ok_iff.mp h
  obtain ⟨upgrades, -, h⟩ := bind_eq_ok_iff.mp h
  rw [← pure_eq_ok_iff.mp h] at hi
  have hrender := exists_of_getElem?_transactionRecords htransactions hi
  rwa [Nat.add_comm] at hrender

theorem LedgerClosing.exists_of_mem_transactions {closing : LedgerClosing}
    {record : Record.LedgerRecord} (h : closing.render options = .ok record)
    {transaction : Record.TransactionRecord} (hmem : transaction ∈ record.transactions) :
    ∃ (applied : TransactionClosing) (order : Nat),
      applied.render options closing.sequence.toNat order = .ok transaction := by
  obtain ⟨i, hi⟩ := List.mem_iff_getElem?.mp hmem
  obtain ⟨applied, -, hrender⟩ := exists_of_getElem?_transactions h hi
  exact ⟨applied, i + 1, hrender⟩

/-! ## What success decides -/

/-- The events of a transaction are those of some sources, and marked only if they belong to an
operation and the transaction succeeded. -/
structure Record.TransactionRecord.MarkedBySuccess (outer : List Protocol.ContractEvent)
    (sources : List (List SourceEvent)) (record : TransactionRecord) : Prop where
  outer : record.applied.outerEvents = outer.map (·.render)
  operations (j : Nat) (operation : OperationRecord) : record.operations[j]? = some operation →
    operation.events.map (·.cleared) = (sources[j]?.getD []).map (·.event.render)
  assetEvent : ∀ event ∈ record.allEvents, event.assetEvent.isSome → event.id.isSome
  id : ∀ operation ∈ record.operations, ∀ event ∈ operation.events,
    event.id.isSome → record.successful = true
  unsuccessful : record.successful = false → ∀ event ∈ record.allEvents, event.Unmarked
  unmarked : ∀ event ∈ record.applied.outerEvents, event.Unmarked

/-- Success and the harvest decide nothing of events but their marks: without them, the events of
a transaction that succeeded are those of one that did not, and both are the events of the
metadata. -/
theorem success_decides_only_marks (options : ExportOptions) :
    (∀ (place : Toid) (sources : List SourceEvent),
      operationEvents options false place sources =
        (operationEvents options true place sources).map (·.cleared)) ∧
    (∀ (ledger order : Nat) (closing : TransactionClosing) (record : Record.TransactionRecord),
      closing.render options ledger order = .ok record →
        record.MarkedBySuccess (closing.applied.outerSources options)
          (closing.applied.sources options)) := by
  constructor
  · intro place sources
    rw [map_cleared_operationEvents, operationEvents_unsuccessful]
  · intro ledger order closing record h
    have hmarked : ∀ event ∈ record.allEvents, event.Unmarked ∨
        record.successful = true ∧ event.id.isSome := by
      intro event hevent
      refine (TransactionClosing.unmarked_or_of_mem_allEvents h hevent).imp_right ?_
      rintro ⟨hsuccessful, source, id, assetEvent, -, rfl⟩
      exact ⟨hsuccessful, rfl⟩
    constructor
    · exact TransactionClosing.outerEvents_render h
    · intro j operation hj
      rw [TransactionClosing.events_render h hj, map_cleared_operationEvents]
    · intro event hevent hasset
      rcases hmarked event hevent with hunmarked | ⟨-, hid⟩
      · rw [hunmarked.assetEvent] at hasset
        cases hasset
      · exact hid
    · intro operation hoperation event hevent hid
      have hmem := Record.TransactionRecord.mem_allEvents.mpr (.inr ⟨operation, hoperation, hevent⟩)
      rcases hmarked event hmem with hunmarked | ⟨hsuccessful, -⟩
      · rw [hunmarked.id] at hid
        cases hid
      · exact hsuccessful
    · intro hunsuccessful event hevent
      rcases hmarked event hevent with hunmarked | ⟨hsuccessful, -⟩
      · exact hunmarked
      · rw [hunsuccessful] at hsuccessful
        cases hsuccessful
    · exact TransactionClosing.unmarked_of_mem_outerEvents h

/-- A burn is marked if its transaction succeeded, and is shown without marks if it failed. -/
theorem marks_of_burn_by_success :
    let options := ExportOptions.ofNetwork .testnet
    let burn : Protocol.ContractEvent := ⟨some ⟨.zero 32⟩, .contract,
      [.symbol (Utf8.bytes "burn"), .address (.account ⟨.zero 32⟩), .string []], .i128 ⟨0, 1⟩⟩
    let applied : Protocol.TransactionMeta :=
      .v4 ⟨[], [⟨[], [burn]⟩], [], none, [⟨.afterTx, burn⟩], []⟩
    let envelope : Protocol.Envelope :=
      .v1 ⟨⟨.plain (.zero 32), 1, 1, .none, .none, [⟨none, .inflation⟩], none⟩, []⟩
    let done : Protocol.OperationResult := .inner (.inflation (.success []))
    let closing (outcome : Protocol.PlainOutcome) : TransactionClosing :=
      ⟨envelope, ⟨.zero 32, ⟨0, .plain outcome⟩⟩, [], none, applied⟩
    let marks (record : Record.TransactionRecord) :=
      record.allEvents.map fun event => (event.id.isSome, event.assetEvent.isSome)
    ∃ record record', (closing (.success [done])).render options 7 1 = .ok record ∧
      (closing (.failed [done])).render options 7 1 = .ok record' ∧
      record.MarkedBySuccess [burn] [[⟨burn, true⟩]] ∧
      record'.MarkedBySuccess [burn] [[⟨burn, true⟩]] ∧
      marks record = [(false, false), (true, true)] ∧
      marks record' = [(false, false), (false, false)] := by
  intro options burn applied envelope done closing marks
  have hmarks : ((closing (.success [done])).render options 7 1).toOption.map marks =
      some [(false, false), (true, true)] := by
    decide +kernel
  have hmarks' : ((closing (.failed [done])).render options 7 1).toOption.map marks =
      some [(false, false), (false, false)] := by
    decide +kernel
  obtain ⟨record, hrecord, hmarks⟩ := Option.map_eq_some_iff.mp hmarks
  obtain ⟨record', hrecord', hmarks'⟩ := Option.map_eq_some_iff.mp hmarks'
  rw [toOption_eq_some_iff] at hrecord hrecord'
  obtain ⟨-, hmarked⟩ := success_decides_only_marks options
  exact ⟨record, record', hrecord, hrecord', hmarked 7 1 _ record hrecord,
    hmarked 7 1 _ record' hrecord', hmarks, hmarks'⟩

end LedgerExport
