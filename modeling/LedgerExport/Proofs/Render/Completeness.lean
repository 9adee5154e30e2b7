import LedgerExport.Proofs.Render.Outline

/-!
# How much of the metadata is shown

The metadata of a transaction holds changes and events by operation, and the
record of a transaction has as many operations as the envelope. Their changes and
events, put together, are those of the metadata in order, as far as there are
operations: what the metadata holds behind the last operation of the envelope is
not shown anywhere, and nothing fails for it. So all of the metadata is shown if
and only if it holds nothing there.

## Implementation notes

Results are counted against the operations of the envelope, and metadata is not.
The third version lists the events of a contract call as those of the first
operation, so they are left out as well if the envelope has no operations.
-/

namespace LedgerExport

variable {options : ExportOptions}

/-! ## Lists by place -/

section Lists

variable {α β γ : Type}

/-- Lists that are taken by place are taken as far as there are places. -/
theorem flatMap_mapIdx_eq_take {places : List α} {f : Nat → α → β} {g : β → List γ}
    {lists : List (List γ)} (h : ∀ j place, g (f j place) = lists[j]?.getD []) :
    (places.mapIdx f).flatMap g = (lists.take places.length).flatten := by
  induction places generalizing f lists with
  | nil => rfl
  | cons place places ih =>
      rw [List.mapIdx_cons, List.flatMap_cons, h]
      cases lists with
      | nil =>
          have hmore (j : Nat) (place : α) :
              g (f (j + 1) place) = ([] : List (List γ))[j]?.getD [] :=
            h (j + 1) place
          rw [ih hmore, List.take_nil, List.take_nil]
          rfl
      | cons first more =>
          rw [ih (fun j place => h (j + 1) place)]
          rfl

/-- Some lists are all of them if there is nothing in the others. -/
theorem map_flatten_take_eq_iff {f : α → β} {lists : List (List α)} {n : Nat} :
    (lists.take n).flatten.map f = lists.flatten.map f ↔ ∀ list ∈ lists.drop n, list = [] := by
  have hlists : lists.flatten = (lists.take n).flatten ++ (lists.drop n).flatten := by
    rw [← List.flatten_append, List.take_append_drop]
  rw [hlists, List.map_append, List.self_eq_append_right, List.map_eq_nil_iff,
    List.flatten_eq_nil_iff]

end Lists

/-! ## Changes and events of operations -/

namespace Record.TransactionRecord

/-- The events of the operations, put together; their marks are left open. -/
def operationEvents (record : TransactionRecord) : List ContractEvent :=
  record.operations.flatMap fun operation => operation.events.map (·.cleared)

/-- The changes of the operations, put together. -/
def operationChanges (record : TransactionRecord) : List EntryChange :=
  record.operations.flatMap fun operation => operation.changes.getD []

/-- The record shows all of the events that metadata holds for operations. -/
def ShowsAllEvents (options : ExportOptions) (applied : Protocol.TransactionMeta)
    (record : TransactionRecord) : Prop :=
  record.operationEvents = (applied.sources options).flatten.map (·.event.render)

/-- The record shows all of the changes that metadata holds for operations. -/
def ShowsAllChanges (applied : Protocol.TransactionMeta) (record : TransactionRecord) : Prop :=
  record.operationChanges = applied.changeLists.flatten.map (·.render)

end Record.TransactionRecord

namespace TransactionClosing

variable {ledger order : Nat} {closing : TransactionClosing} {record : Record.TransactionRecord}

theorem operationEvents_render (h : closing.render options ledger order = .ok record) :
    record.operationEvents =
      ((closing.applied.sources options).take closing.envelope.operations.length).flatten.map
        (·.event.render) := by
  obtain ⟨outline, houtline, rfl⟩ := exists_outline_of_render h
  obtain ⟨-, -, hplaces⟩ := outline_eq_ok houtline
  rw [← (operationPlaces_eq_ok hplaces).1, List.map_flatten, List.map_take]
  apply flatMap_mapIdx_eq_take
  intro j place
  rw [recordAt, map_cleared_operationEvents, List.getElem?_map]
  cases (closing.applied.sources options)[j]? with
  | none => rfl
  | some sources => rfl

theorem operationChanges_render (hshown : options.includeLedgerChanges = true)
    (h : closing.render options ledger order = .ok record) :
    record.operationChanges =
      (closing.applied.changeLists.take closing.envelope.operations.length).flatten.map
        (·.render) := by
  obtain ⟨outline, houtline, rfl⟩ := exists_outline_of_render h
  obtain ⟨-, -, hplaces⟩ := outline_eq_ok houtline
  rw [← (operationPlaces_eq_ok hplaces).1, List.map_flatten, List.map_take]
  apply flatMap_mapIdx_eq_take
  intro j place
  rw [recordAt, List.getElem?_map]
  cases closing.applied.changeLists[j]? with
  | none => rfl
  | some changes => simp [ExportOptions.changes, hshown]

end TransactionClosing

/-- How much a record shows of the metadata of its transaction: the first entries, as many as the
envelope has operations. -/
structure Record.TransactionRecord.ShowsMetadata (options : ExportOptions)
    (closing : TransactionClosing) (record : TransactionRecord) : Prop where
  events : record.operationEvents =
    ((closing.applied.sources options).take closing.envelope.operations.length).flatten.map
      (·.event.render)
  changes : options.includeLedgerChanges = true → record.operationChanges =
    (closing.applied.changeLists.take closing.envelope.operations.length).flatten.map (·.render)
  allEvents : record.ShowsAllEvents options closing.applied ↔
    ∀ sources ∈ (closing.applied.sources options).drop closing.envelope.operations.length,
      sources = []
  allChanges : options.includeLedgerChanges = true →
    (record.ShowsAllChanges closing.applied ↔
      ∀ changes ∈ closing.applied.changeLists.drop closing.envelope.operations.length,
        changes = [])

/-- The changes and events of the operations are those of the metadata, in order and one by one,
as far as the envelope has operations. All of them are shown exactly if nothing stands behind. -/
theorem metadata_shown_up_to_operations {ledger order : Nat} {closing : TransactionClosing}
    {record : Record.TransactionRecord} (h : closing.render options ledger order = .ok record) :
    record.ShowsMetadata options closing := by
  have hevents := TransactionClosing.operationEvents_render h
  constructor
  · exact hevents
  · exact fun hshown => TransactionClosing.operationChanges_render hshown h
  · rw [Record.TransactionRecord.ShowsAllEvents, hevents, map_flatten_take_eq_iff]
  · intro hshown
    rw [Record.TransactionRecord.ShowsAllChanges,
      TransactionClosing.operationChanges_render hshown h, map_flatten_take_eq_iff]

/-- Metadata of one entry beside one operation is shown with its event and its change. -/
theorem entry_of_one_operation_shown :
    let options := ExportOptions.ofNetwork .testnet
    let event : Protocol.ContractEvent := ⟨some ⟨.zero 32⟩, .contract, [], .void⟩
    let change : Protocol.EntryChange := .removed (.ttl (.zero 32))
    let envelope : Protocol.Envelope :=
      .v1 ⟨⟨.plain (.zero 32), 1, 1, .none, .none, [⟨none, .inflation⟩], none⟩, []⟩
    let result : Protocol.ResultPair :=
      ⟨.zero 32, ⟨0, .plain (.success [.inner (.inflation (.success []))])⟩⟩
    let applied : Protocol.TransactionMeta := .v4 ⟨[], [⟨[change], [event]⟩], [], none, [], []⟩
    let closing : TransactionClosing := ⟨envelope, result, [], none, applied⟩
    ∃ record, closing.render options 7 1 = .ok record ∧ record.ShowsMetadata options closing ∧
      record.ShowsAllEvents options applied ∧ record.ShowsAllChanges applied := by
  intro options event change envelope result applied closing
  obtain ⟨record, hrecord⟩ : ∃ record, closing.render options 7 1 = .ok record := ⟨_, rfl⟩
  have hshown := metadata_shown_up_to_operations hrecord
  exact ⟨record, hrecord, hshown, hshown.allEvents.mpr nofun, (hshown.allChanges rfl).mpr nofun⟩

/-- The second of two entries beside one operation is not shown, and nothing fails. -/
theorem second_entry_of_one_operation_lost :
    let options := ExportOptions.ofNetwork .testnet
    let event : Protocol.ContractEvent := ⟨some ⟨.zero 32⟩, .contract, [], .void⟩
    let change : Protocol.EntryChange := .removed (.ttl (.zero 32))
    let envelope : Protocol.Envelope :=
      .v1 ⟨⟨.plain (.zero 32), 1, 1, .none, .none, [⟨none, .inflation⟩], none⟩, []⟩
    let result : Protocol.ResultPair :=
      ⟨.zero 32, ⟨0, .plain (.success [.inner (.inflation (.success []))])⟩⟩
    let applied : Protocol.TransactionMeta :=
      .v4 ⟨[], [⟨[change], [event]⟩, ⟨[change], [event]⟩], [], none, [], []⟩
    let closing : TransactionClosing := ⟨envelope, result, [], none, applied⟩
    ∃ record, closing.render options 7 1 = .ok record ∧
      ¬ record.ShowsAllEvents options applied ∧ ¬ record.ShowsAllChanges applied := by
  intro options event change envelope result applied closing
  have hshown : (closing.render options 7 1).toOption.map (fun record =>
      (record.operationEvents.length, record.operationChanges.length)) = some (1, 1) := by
    decide +kernel
  obtain ⟨record, hrecord, hshown⟩ := Option.map_eq_some_iff.mp hshown
  rw [toOption_eq_some_iff] at hrecord
  obtain ⟨hevents, hchanges⟩ := Prod.mk.inj hshown
  refine ⟨record, hrecord, fun hall => ?_, fun hall => ?_⟩
  · rw [Record.TransactionRecord.ShowsAllEvents] at hall
    rw [hall] at hevents
    cases hevents
  · rw [Record.TransactionRecord.ShowsAllChanges] at hall
    rw [hall] at hchanges
    cases hchanges

end LedgerExport
