import LedgerExport.Export
import LedgerExport.Proofs.Closing.Pairing
import LedgerExport.Proofs.Render.EventIds
import LedgerExport.Proofs.Stream.Reader

/-!
# The order of event lines

The lines of a ledger show its identified events in order, and their identifiers
increase. So do those of a whole run if the sequences of its ledgers do, since
the place of an operation begins with the sequence of its ledger.

## Implementation notes

That lists of events are not longer than the schema allows is a hypothesis about
a closed ledger, and a fact about one that was read from bytes.
-/

namespace LedgerExport

open Protocol (LedgerClose)

/-! ## Lines -/

/-- The text of a member of a document. -/
def Json.textOf (name : String) : Json → Option String
  | .obj members =>
    match find? members name with
    | some (.str text) => some text
    | _ => none
  | _ => none

namespace Record

theorem EventLine.textOf_document (line : EventLine) :
    line.document.textOf "id" = line.event.id.map (·.text) := by
  obtain ⟨ledger, hash, operation, id, contract, type, topics, data, assetEvent⟩ := line
  cases id with
  | none => rfl
  | some id => rfl

theorem OperationRecord.map_id_eventLines (ledger : UInt32) (hash : Hash)
    (record : OperationRecord) :
    (record.eventLines ledger hash).map (·.event.id) = record.eventIds.map some := by
  rw [eventLines, identified, eventIds, ContractEvent.ids, List.map_map]
  induction record.events with
  | nil => rfl
  | cons event events ih =>
      cases h : event.id with
      | none =>
          rw [List.filter_cons_of_neg (by simp [h]), List.filterMap_cons_none h, ih]
      | some id =>
          rw [List.filter_cons_of_pos (by simp [h]), List.filterMap_cons_some h, List.map_cons,
            List.map_cons, ih, Function.comp_apply, h]

theorem TransactionRecord.map_id_eventLines (ledger : UInt32) (record : TransactionRecord) :
    (record.eventLines ledger).map (·.event.id) = record.eventIds.map some := by
  simp only [eventLines, eventIds, List.map_flatMap, OperationRecord.map_id_eventLines]

/-- The lines of a ledger have its identifiers, in order. -/
theorem LedgerRecord.map_id_eventLines (record : LedgerRecord) :
    record.eventLines.map (·.event.id) = record.eventIds.map some := by
  simp only [eventLines, eventIds, List.map_flatMap, TransactionRecord.map_id_eventLines]

end Record

/-- The documents of a view of events show some of the identifiers of a ledger, in order. -/
theorem View.exists_ids_documents (assetOnly : Bool) (record : Record.LedgerRecord) :
    ∃ ids : List EventId, ids.Sublist record.eventIds ∧
      (documents (.events assetOnly) record).map (·.textOf "id") =
        ids.map fun id => some id.text := by
  have hlines : (lines assetOnly record).Sublist record.eventLines := by
    cases assetOnly with
    | true => exact List.filter_sublist
    | false => exact List.Sublist.refl _
  have hids := hlines.map (·.event.id)
  rw [Record.LedgerRecord.map_id_eventLines, List.sublist_map_iff] at hids
  obtain ⟨ids, hsublist, hmap⟩ := hids
  refine ⟨ids, hsublist, ?_⟩
  have htexts := congrArg (List.map fun id : Option EventId => id.map (·.text)) hmap
  rw [List.map_map, List.map_map] at htexts
  rw [documents, List.map_map]
  exact (List.map_congr_left fun line _ => line.textOf_document).trans htexts

/-! ## Runs -/

/-- The sequences of the ledgers that come out of a stream. -/
def sequences (reads : List (Except Error LedgerClose)) : List UInt32 :=
  reads.filterMap fun read =>
    read.toOption.map fun close => (LedgerClosing.headerOf close).header.ledgerSeq

namespace LedgerClosing

theorem eventsFit_of_mem_appliedOf {report : LedgerClose} (h : report.EventsFit)
    {applied : Applied} (happlied : applied ∈ appliedOf report) : applied.applied.EventsFit := by
  cases report with
  | v0 report =>
      obtain ⟨processing, hprocessing, rfl⟩ := List.mem_map.mp happlied
      exact h processing hprocessing
  | v1 report =>
      obtain ⟨processing, hprocessing, rfl⟩ := List.mem_map.mp happlied
      exact h processing hprocessing
  | v2 report =>
      obtain ⟨processing, hprocessing, rfl⟩ := List.mem_map.mp happlied
      exact h processing hprocessing

/-- Pairing keeps the metadata, and with it the limits of the schema. -/
theorem eventsFit_of_ofReport {network : NetworkId} {report : LedgerClose}
    {closing : LedgerClosing} (hfit : report.EventsFit)
    (h : ofReport network report = .ok closing) :
    ∀ transaction ∈ closing.transactions, transaction.applied.EventsFit := by
  intro transaction hmem
  obtain ⟨applied, happlied, envelope, _, rfl⟩ := exists_closes_of_mem (ofReport_eq_ok h).2 hmem
  exact eventsFit_of_mem_appliedOf hfit happlied

end LedgerClosing

namespace Run

variable {options : ExportOptions}

theorem ledger_eq_ok {number : Nat} {read : Except Error LedgerClose}
    {record : Record.LedgerRecord} (h : ledger options number read = .ok record) :
    ∃ close closing, read = .ok close ∧ LedgerClosing.ofReport options.network close = .ok closing ∧
      closing.render options = .ok record := by
  unfold ledger at h
  split at h
  · cases h
  · next close =>
      split at h
      · cases h
      · next closing hclosing =>
          split at h
          · cases h
          · next hrender =>
              cases h
              exact ⟨close, closing, rfl, hclosing, hrender⟩

/-- A ledger of a stream comes out with its operations at their places. -/
theorem placed_of_ledger {number : Nat} {close : LedgerClose} {record : Record.LedgerRecord}
    (hfit : close.EventsFit) (h : ledger options number (.ok close) = .ok record) :
    record.Placed (LedgerClosing.headerOf close).header.ledgerSeq.toNat := by
  obtain ⟨_, closing, ⟨⟩, hclosing, hrender⟩ := ledger_eq_ok h
  have hplaced := LedgerClosing.placed_render
    (LedgerClosing.eventsFit_of_ofReport hfit hclosing) hrender
  rwa [LedgerClosing.sequence, (LedgerClosing.ofReport_eq_ok hclosing).1] at hplaced

variable (options) in
/-- Along a run the identifiers increase, and each has its place in a ledger of the stream. -/
theorem exists_ids_ofReads (assetOnly : Bool) (number : Nat) (totals : Totals)
    {reads : List (Except Error LedgerClose)}
    (hfit : ∀ close, .ok close ∈ reads → close.EventsFit)
    (hsequences : (sequences reads).Pairwise (· < ·)) :
    ∃ ids : List EventId,
      (ofReads options (.events assetOnly) number totals reads).documents.map (·.textOf "id") =
        (ids.map fun id => some id.text) ∧
      ids.Pairwise (· < ·) ∧
      ∀ id ∈ ids, ∃ sequence ∈ sequences reads, id.operation.ledger = sequence.toNat := by
  induction reads generalizing number totals with
  | nil => exact ⟨[], rfl, .nil, by simp⟩
  | cons read more ih =>
      cases hledger : ledger options number read with
      | error failure =>
          refine ⟨[], ?_, .nil, by simp⟩
          rw [ofReads, hledger]
          rfl
      | ok record =>
          obtain ⟨close, _, rfl, _⟩ := ledger_eq_ok hledger
          have hplaced := placed_of_ledger (hfit close List.mem_cons_self) hledger
          obtain ⟨hfirst, hmore⟩ := List.pairwise_cons.mp hsequences
          obtain ⟨rest, hrest, hrestlt, hrestledger⟩ :=
            ih (number + 1) (totals.add (.events assetOnly) record)
              (fun c hc => hfit c (List.mem_cons_of_mem _ hc)) hmore
          obtain ⟨ids, hsublist, hids⟩ := View.exists_ids_documents assetOnly record
          have hledgers : ∀ id ∈ ids, id.operation.ledger =
              (LedgerClosing.headerOf close).header.ledgerSeq.toNat :=
            fun id hid => hplaced.ledger_of_mem (hsublist.subset hid)
          -- Later ledgers have greater sequences, so all that they show comes behind this one.
          refine ⟨ids ++ rest, ?_, ?_, ?_⟩
          · rw [ofReads, hledger, List.map_append, hids, hrest]
            exact List.map_append.symm
          · refine List.pairwise_append.mpr ⟨hplaced.pairwise_lt.sublist hsublist, hrestlt, ?_⟩
            intro a ha b hb
            obtain ⟨sequence, hsequence, hb⟩ := hrestledger b hb
            left
            apply Toid.raw_lt_of_ledger_lt
            rw [hledgers a ha, hb]
            exact UInt32.lt_iff_toNat_lt.mp (hfirst sequence hsequence)
          · intro id hid
            rcases List.mem_append.mp hid with hid | hid
            · exact ⟨_, List.mem_cons_self, hledgers id hid⟩
            · obtain ⟨sequence, hsequence, hid⟩ := hrestledger id hid
              exact ⟨sequence, List.mem_cons_of_mem _ hsequence, hid⟩

end Run

/-- In a shown ledger every operation has its place, its identified events have that place and
the orders 1, 2, 3 and so on, and along the ledger the identifiers and their texts increase. The
texts of a run over a stream increase as well if the sequences of the ledgers in it do. -/
theorem event_identifiers_increase (options : ExportOptions) :
    (∀ (closing : LedgerClosing) (record : Record.LedgerRecord),
      (∀ transaction ∈ closing.transactions, transaction.applied.EventsFit) →
        closing.render options = .ok record →
          record.eventIds.Pairwise (· < ·) ∧
          (record.eventIds.map (·.text)).Pairwise (· < ·) ∧
          record.eventIds.Nodup ∧
          ∀ (i : Nat) (transaction : Record.TransactionRecord),
            record.transactions[i]? = some transaction →
            ∀ (j : Nat) (operation : Record.OperationRecord),
              transaction.operations[j]? = some operation →
                Toid.make closing.sequence.toNat (i + 1) (j + 1) = .ok operation.toid ∧
                (∀ id ∈ operation.eventIds, id.operation = operation.toid) ∧
                operation.eventIds.map (·.order.toNat) =
                  List.range' 1 operation.eventIds.length) ∧
    (∀ (assetOnly : Bool) (format : Stream.Format) (bytes : Octets),
      (sequences ((Stream.Reader.start bytes format).values LedgerClose.layout)).Pairwise (· < ·) →
        ∃ texts : List String,
          (Run.ofStream options (.events assetOnly) format bytes).documents.map (·.textOf "id") =
            texts.map some ∧
          texts.Pairwise (· < ·)) := by
  constructor
  · intro closing record hfit hrender
    have hplaced := LedgerClosing.placed_render hfit hrender
    have hincrease := hplaced.pairwise_lt
    refine ⟨hincrease, EventId.pairwise_text_lt hincrease,
      EventId.nodup_of_pairwise_lt hincrease, ?_⟩
    intro i transaction hi j operation hj
    have hoperation := hplaced i transaction hi j operation hj
    exact ⟨hoperation.toid, hoperation.numbered.operation, hoperation.numbered.order⟩
  · intro assetOnly format bytes hsequences
    have hfit : ∀ close,
        .ok close ∈ (Stream.Reader.start bytes format).values LedgerClose.layout →
          close.EventsFit := by
      intro close hclose
      exact Stream.Reader.promised_of_mem_values LedgerClose.promises_eventsFit hclose
    obtain ⟨ids, hdocuments, hincrease, _⟩ :=
      Run.exists_ids_ofReads options assetOnly 1 .zero hfit hsequences
    refine ⟨ids.map (·.text), ?_, ?_⟩
    · rw [Run.ofStream, hdocuments, List.map_map]
      rfl
    · exact EventId.pairwise_text_lt hincrease

/-- A transaction of two operations, with an event that is skipped, in two ledgers of a stream. -/
theorem event_identifiers_of_two_ledgers :
    let options := ExportOptions.ofNetwork .testnet
    let event : Protocol.ContractEvent := ⟨none, .contract, [], .void⟩
    let skipped : Protocol.ContractEvent := ⟨none, .system, [], .void⟩
    let applied : Protocol.TransactionMeta :=
      .v4 ⟨[], [⟨[], [event, skipped, event]⟩, ⟨[], [event]⟩], [], none, [], []⟩
    let envelope : Protocol.Envelope := .v1 ⟨⟨.plain (.zero 32), 1, 1, .none, .none,
      [⟨none, .inflation⟩, ⟨none, .inflation⟩], none⟩, []⟩
    let done : Protocol.OperationResult := .inner (.inflation (.success []))
    let result : Protocol.ResultPair :=
      ⟨envelope.hash options.network, ⟨0, .plain (.success [done, done])⟩⟩
    let header (sequence : UInt32) : Protocol.HeaderEntry := ⟨.zero 32, ⟨0, .zero 32,
      ⟨.zero 32, 0, [], none⟩, .zero 32, .zero 32, sequence, 0, 0, 0, 0, 0, 0, 0, .zero 128, none⟩⟩
    let closing : LedgerClosing := ⟨header 7, [⟨envelope, result, [], none, applied⟩]⟩
    let frame (sequence : UInt32) : Octets :=
      let close : LedgerClose :=
        .v0 ⟨header sequence, ⟨.zero 32, [envelope]⟩, [⟨result, [], applied⟩], [], []⟩
      let bytes := LedgerClose.layout.encode close
      BigEndian.write 4 bytes.length bytes
    let stream := Stream.Reader.start (frame 7 ++ frame 8) .frames
    (∃ record, closing.render options = .ok record ∧ record.eventIds.Nodup ∧
      record.eventIds.map (·.text) = ["0000000030064775169-0000000001",
        "0000000030064775169-0000000002", "0000000030064775170-0000000001"]) ∧
    sequences (stream.values LedgerClose.layout) = [7, 8] ∧
    ∃ texts : List String,
      (Run.ofStream options (.events false) .frames (frame 7 ++ frame 8)).documents.map
        (·.textOf "id") = texts.map some ∧
      texts.Pairwise (· < ·) ∧ texts.length = 6 := by
  intro options event skipped applied envelope done result header closing frame stream
  have htexts : (closing.render options).toOption.map (fun record =>
      record.eventIds.map (·.text)) = some ["0000000030064775169-0000000001",
        "0000000030064775169-0000000002", "0000000030064775170-0000000001"] := by
    decide +kernel
  have hsequences : sequences (stream.values LedgerClose.layout) = [7, 8] := by decide +kernel
  have hlength : (Run.ofStream options (.events false) .frames
      (frame 7 ++ frame 8)).documents.length = 6 := by
    decide +kernel
  have hfit : ∀ transaction ∈ closing.transactions, transaction.applied.EventsFit := by
    rintro transaction (_ | ⟨_, ⟨⟩⟩)
    rintro operation (_ | ⟨_, _ | ⟨_, ⟨⟩⟩⟩)
    · decide
    · decide
  obtain ⟨hledger, hstream⟩ := event_identifiers_increase options
  obtain ⟨record, hrecord, htexts⟩ := Option.map_eq_some_iff.mp htexts
  rw [toOption_eq_some_iff] at hrecord
  obtain ⟨texts, hdocuments, hincrease⟩ :=
    hstream false .frames (frame 7 ++ frame 8) (by rw [hsequences]; decide)
  refine ⟨⟨record, hrecord, (hledger closing record hfit hrecord).2.2.1, htexts⟩, hsequences,
    texts, hdocuments, hincrease, ?_⟩
  have h := congrArg List.length hdocuments
  rw [List.length_map, List.length_map, hlength] at h
  exact h.symm

end LedgerExport
