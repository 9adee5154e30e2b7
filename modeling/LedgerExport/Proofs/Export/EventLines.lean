import LedgerExport.Proofs.Export.EventOrder
import LedgerExport.Proofs.Record.EventQuery

/-!
# Event lines against the documents of ledgers

A run that shows events and one that shows ledgers, over the same bytes, read
and convert the same ledgers. So the lines of the first are what a query finds
in the documents of the second, and both end alike.

## Implementation notes

Both runs are `Run.ofReads` with different views. What depends on the view is
compared ledger by ledger, by induction along the stream.
-/

namespace LedgerExport

open Protocol (LedgerClose)

/-! ## Events that belong to no operation -/

section Unidentified

variable {options : ExportOptions}

/-- Only operations have events with identifiers. -/
theorem LedgerClosing.unidentified_render {closing : LedgerClosing}
    {record : Record.LedgerRecord} (h : closing.render options = .ok record) :
    ∀ transaction ∈ record.transactions, transaction.applied.Unidentified := by
  intro transaction htransaction
  obtain ⟨applied, order, hrender⟩ := exists_of_mem_transactions h htransaction
  have hunmarked := TransactionClosing.unmarked_of_mem_outerEvents hrender
  constructor
  · intro e he
    apply Record.ContractEvent.Unmarked.id
    exact hunmarked e.event (List.mem_append_left _ (List.mem_map_of_mem he))
  · intro e he
    apply Record.ContractEvent.Unmarked.id
    exact hunmarked e.event (List.mem_append_right _ (List.mem_map_of_mem he))

theorem LedgerClosing.sequence_render {closing : LedgerClosing} {record : Record.LedgerRecord}
    (h : closing.render options = .ok record) : record.summary.sequence = closing.sequence := by
  obtain ⟨transactions, -, h⟩ := bind_eq_ok_iff.mp h
  obtain ⟨upgrades, -, h⟩ := bind_eq_ok_iff.mp h
  rw [← pure_eq_ok_iff.mp h]
  rfl

end Unidentified

/-! ## Lines at their places -/

/-- The operation of a line is in its ledger, and its event has an identifier of the operation. -/
structure Record.EventLine.InPlace (line : EventLine) : Prop where
  ledger : line.operation.ledger = line.ledger.toNat
  identifier : ∃ id, line.event.id = some id ∧ id.operation = line.operation

theorem Record.LedgerRecord.Placed.inPlace {record : LedgerRecord}
    (h : record.Placed record.summary.sequence.toNat) :
    ∀ line ∈ record.eventLines, line.InPlace := by
  intro line hline
  obtain ⟨transaction, htransaction, hline⟩ := List.mem_flatMap.mp hline
  obtain ⟨operation, hoperation, hline⟩ := List.mem_flatMap.mp hline
  obtain ⟨event, hevent, rfl⟩ := List.mem_map.mp hline
  obtain ⟨i, hi⟩ := List.mem_iff_getElem?.mp htransaction
  obtain ⟨j, hj⟩ := List.mem_iff_getElem?.mp hoperation
  have hplaced := h i transaction hi j operation hj
  obtain ⟨hmem, hid⟩ := List.mem_filter.mp hevent
  obtain ⟨id, hid⟩ := Option.isSome_iff_exists.mp hid
  refine ⟨Toid.ledger_of_make hplaced.toid, id, hid, ?_⟩
  exact hplaced.numbered.operation id (List.mem_filterMap.mpr ⟨event, hmem, hid⟩)

/-! ## Views of one ledger -/

namespace View

theorem documents_events (record : Record.LedgerRecord) :
    documents (.events false) record =
      (documents .ledgers record).flatMap Json.identifiedEvents := by
  rw [documents, documents, List.flatMap_singleton, Record.LedgerRecord.identifiedEvents_write]
  rfl

theorem documents_assetEvents (record : Record.LedgerRecord) :
    documents (.events true) record =
      (documents (.events false) record).filter fun line => !(line.get "asset_event").isNull := by
  have hall : lines false record = record.eventLines := rfl
  have hassets : lines true record =
      record.eventLines.filter (·.event.assetEvent.isSome) := rfl
  rw [documents, documents, hall, hassets]
  refine (filter_map_of_forall (fun line => ?_) record.eventLines).symm
  rw [Record.EventLine.isNull_assetEvent, Option.not_isNone]

end View

/-! ## Runs -/

/-- What a run has counted but for events. -/
def Totals.withoutEvents (totals : Totals) : Totals :=
  { totals with events := 0 }

namespace Run

variable (options : ExportOptions) {view view' : View}

/-- What one view shows of each ledger in terms of another, it shows of a whole run. -/
theorem documents_ofReads {f : List Json → List Json} (hnil : f [] = [])
    (happend : ∀ first more, f (first ++ more) = f first ++ f more)
    (hview : ∀ record, view.documents record = f (view'.documents record)) (number : Nat)
    (totals totals' : Totals) (reads : List (Except Error LedgerClose)) :
    (ofReads options view number totals reads).documents =
      f (ofReads options view' number totals' reads).documents := by
  -- What was counted before does not bear on what is shown, so the totals may differ.
  induction reads generalizing number totals totals' with
  | nil => exact hnil.symm
  | cons read more ih =>
      rw [ofReads, ofReads]
      cases hledger : ledger options number read with
      | error failure => exact hnil.symm
      | ok record =>
          simp only [happend, hview,
            ih (number + 1) (totals.add view record) (totals'.add view' record)]

theorem outcome_ofReads (hcount : view.count = view'.count) (number : Nat) (totals : Totals)
    (reads : List (Except Error LedgerClose)) :
    (ofReads options view number totals reads).outcome =
      (ofReads options view' number totals reads).outcome := by
  induction reads generalizing number totals with
  | nil => rfl
  | cons read more ih =>
      rw [ofReads, ofReads]
      cases hledger : ledger options number read with
      | error failure => rfl
      | ok record =>
          have hadd : totals.add view record = totals.add view' record := by
            rw [Totals.add, Totals.add, hcount]
          simp only [hadd, ih]

/-- Runs that show different events end alike, but for the number of events. -/
theorem withoutEvents_outcome_ofReads (view view' : View) (number : Nat) {totals totals' : Totals}
    (htotals : totals.withoutEvents = totals'.withoutEvents)
    (reads : List (Except Error LedgerClose)) :
    (ofReads options view number totals reads).outcome.map Totals.withoutEvents =
      (ofReads options view' number totals' reads).outcome.map Totals.withoutEvents := by
  induction reads generalizing number totals totals' with
  | nil => exact congrArg Except.ok htotals
  | cons read more ih =>
      rw [ofReads, ofReads]
      cases hledger : ledger options number read with
      | error failure => rfl
      | ok record =>
          obtain ⟨hledgers, htransactions, -⟩ := Totals.mk.inj htotals
          apply ih
          rw [Totals.withoutEvents, Totals.withoutEvents, Totals.add, Totals.add, hledgers,
            htransactions]

/-- A run that shows events counts the lines that it writes. -/
theorem events_of_ofReads {assetOnly : Bool} {number : Nat} {totals done : Totals}
    {reads : List (Except Error LedgerClose)}
    (h : (ofReads options (.events assetOnly) number totals reads).outcome = .ok done) :
    done.events = totals.events +
      (ofReads options (.events assetOnly) number totals reads).documents.length := by
  induction reads generalizing number totals with
  | nil =>
      cases h
      rfl
  | cons read more ih =>
      rw [ofReads] at h ⊢
      cases hledger : ledger options number read with
      | error failure =>
          rw [hledger] at h
          cases h
      | ok record =>
          rw [hledger] at h
          rw [ih h, List.length_append, View.documents, List.length_map, Totals.add, View.count,
            Nat.add_assoc]

variable {options}

theorem sequence_of_ledger {number : Nat} {close : LedgerClose} {record : Record.LedgerRecord}
    (h : ledger options number (.ok close) = .ok record) :
    record.summary.sequence = (LedgerClosing.headerOf close).header.ledgerSeq := by
  obtain ⟨_, closing, ⟨⟩, hclosing, hrender⟩ := ledger_eq_ok h
  rw [LedgerClosing.sequence_render hrender, LedgerClosing.sequence,
    (LedgerClosing.ofReport_eq_ok hclosing).1]

/-- Every line of a run is at its place. -/
theorem exists_lines_ofReads (number : Nat) (totals : Totals)
    {reads : List (Except Error LedgerClose)}
    (hfit : ∀ close, .ok close ∈ reads → close.EventsFit) :
    ∃ lines : List Record.EventLine,
      (ofReads options (.events false) number totals reads).documents =
        lines.map (·.document) ∧
      ∀ line ∈ lines, line.InPlace := by
  induction reads generalizing number totals with
  | nil => exact ⟨[], rfl, List.forall_mem_nil _⟩
  | cons read more ih =>
      rw [ofReads]
      cases hledger : ledger options number read with
      | error failure => exact ⟨[], rfl, List.forall_mem_nil _⟩
      | ok record =>
          obtain ⟨close, _, rfl, _⟩ := ledger_eq_ok hledger
          have hplaced := placed_of_ledger (hfit close List.mem_cons_self) hledger
          rw [← sequence_of_ledger hledger] at hplaced
          obtain ⟨rest, hrest, hinPlace⟩ := ih (number + 1) (totals.add (.events false) record)
            fun c hc => hfit c (List.mem_cons_of_mem _ hc)
          refine ⟨record.eventLines ++ rest, ?_, ?_⟩
          · rw [List.map_append, ← hrest]
            rfl
          · intro line hline
            rcases List.mem_append.mp hline with hline | hline
            · exact hplaced.inPlace line hline
            · exact hinPlace line hline

/-- No event that belongs to no operation has an identifier in any document. -/
theorem isNull_id_of_outerEvents (number : Nat) (totals : Totals)
    (reads : List (Except Error LedgerClose)) :
    ∀ document ∈ (ofReads options .ledgers number totals reads).documents,
      ∀ event ∈ document.outerEvents, (event.get "id").isNull := by
  induction reads generalizing number totals with
  | nil => exact List.forall_mem_nil _
  | cons read more ih =>
      rw [ofReads]
      cases hledger : ledger options number read with
      | error failure => exact List.forall_mem_nil _
      | ok record =>
          obtain ⟨_, closing, _, _, hrender⟩ := ledger_eq_ok hledger
          refine List.forall_mem_cons.mpr ⟨?_, ih (number + 1) (totals.add .ledgers record)⟩
          intro event hevent
          exact Record.LedgerRecord.isNull_id_of_mem_outerEvents
            (LedgerClosing.unidentified_render hrender) hevent

/-- A run shows one by one the identified events in the documents of another, and ends like it. -/
structure ShowsEventsOf (events ledgers : Run) : Prop where
  documents : events.documents = ledgers.documents.flatMap Json.identifiedEvents
  outer : ∀ document ∈ ledgers.documents, ∀ event ∈ document.outerEvents,
    (event.get "id").isNull
  inPlace : ∃ lines : List Record.EventLine,
    events.documents = lines.map (·.document) ∧ ∀ line ∈ lines, line.InPlace
  outcome : events.outcome = ledgers.outcome
  count : ∀ totals, events.outcome = .ok totals → totals.events = events.documents.length

/-- A run shows those lines of another that say something about an asset, and ends like it but
for the number of lines. -/
structure ShowsAssetEventsOf (assets events : Run) : Prop where
  documents :
    assets.documents = events.documents.filter fun line => !(line.get "asset_event").isNull
  outcome : assets.outcome.map Totals.withoutEvents = events.outcome.map Totals.withoutEvents
  count : ∀ totals, assets.outcome = .ok totals → totals.events = assets.documents.length

end Run

/-- Over any bytes, the run that shows events shows those that the run over ledgers holds, in
order and at their places, and both end alike; asset events alone are some of these lines. -/
theorem event_lines_of_ledger_documents (options : ExportOptions) (format : Stream.Format)
    (bytes : Octets) :
    let run (view : View) := Run.ofStream options view format bytes
    (run (.events false)).ShowsEventsOf (run .ledgers) ∧
      (run (.events true)).ShowsAssetEventsOf (run (.events false)) := by
  intro run
  have hfit : ∀ close,
      .ok close ∈ (Stream.Reader.start bytes format).values LedgerClose.layout →
        close.EventsFit := by
    intro close hclose
    exact Stream.Reader.promised_of_mem_values LedgerClose.promises_eventsFit hclose
  have hcount : ∀ (assetOnly : Bool) (totals : Totals),
      (run (.events assetOnly)).outcome = .ok totals →
        totals.events = (run (.events assetOnly)).documents.length := by
    intro assetOnly totals h
    have hevents := Run.events_of_ofReads options h
    rwa [Totals.zero, Nat.zero_add] at hevents
  constructor
  · constructor
    · exact Run.documents_ofReads options List.flatMap_nil (fun _ _ => List.flatMap_append)
        View.documents_events 1 .zero .zero _
    · exact Run.isNull_id_of_outerEvents 1 .zero _
    · exact Run.exists_lines_ofReads 1 .zero hfit
    · exact Run.outcome_ofReads options View.count_ledgers.symm 1 .zero _
    · exact hcount false
  · constructor
    · exact Run.documents_ofReads options List.filter_nil (fun _ _ => List.filter_append _ _)
        View.documents_assetEvents 1 .zero .zero _
    · exact Run.withoutEvents_outcome_ofReads options _ _ 1 rfl _
    · exact hcount true

end LedgerExport
