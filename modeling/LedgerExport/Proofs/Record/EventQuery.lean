import LedgerExport.Record.EventLine

/-!
# Events read out of the document of a ledger

The document of a ledger holds its events inside the operations of its
transactions, and further ones beside them. Here they are found by the names of
members alone, so that what is said about them is about the document and not
about the record that it was written from.
-/

namespace LedgerExport

/-! ## Queries -/

namespace Json

/-- The members of an object. -/
def members : Json → List (String × Json)
  | .obj members => members
  | _ => []

/-- The value of a member; one that is missing is null. -/
def get (json : Json) (name : String) : Json :=
  (find? json.members name).getD .null

/-- The items of an array. -/
def items : Json → List Json
  | .arr items => items
  | _ => []

def isNull : Json → Bool
  | .null => true
  | _ => false

/-- An event with its ledger, its transaction and its operation in front. -/
def withPlace (document transaction operation event : Json) : Json :=
  .obj (("ledger", (document.get "summary").get "sequence")
    :: ("transaction_hash", transaction.get "hash")
    :: ("operation", operation.get "toid")
    :: event.members)

/-- The events of the operations in the document of a ledger that have an identifier. -/
def identifiedEvents (document : Json) : List Json :=
  (document.get "transactions").items.flatMap fun transaction =>
    (transaction.get "operations").items.flatMap fun operation =>
      ((operation.get "events").items.filter fun event => !(event.get "id").isNull).map
        (document.withPlace transaction operation)

/-- The events in the document of a ledger that belong to no operation. -/
def outerEvents (document : Json) : List Json :=
  (document.get "transactions").items.flatMap fun transaction =>
    ((transaction.get "meta").get "tx_events").items.map (·.get "event") ++
      ((transaction.get "meta").get "diagnostic_events").items.map (·.get "event")

end Json

/-! ## What they find in a record -/

theorem filter_map_of_forall {α β : Type} {f : α → β} {p : β → Bool} {q : α → Bool}
    (h : ∀ a, p (f a) = q a) (l : List α) : (l.map f).filter p = (l.filter q).map f := by
  rw [List.filter_map]
  congr 1
  exact List.filter_congr fun a _ => h a

namespace Record

open Json

theorem LedgerSummary.get_sequence (summary : LedgerSummary) :
    (form.write summary).get "sequence" = Form.uint32.write summary.sequence := by
  simp [form, Form.record, Form.Fields.field, Form.Fields.make, Json.get, Json.members, Json.find?]

theorem LedgerRecord.items_transactions (record : LedgerRecord) :
    ((form.write record).get "transactions").items =
      record.transactions.map TransactionRecord.form.write := rfl

theorem TransactionRecord.items_operations (record : TransactionRecord) :
    ((form.write record).get "operations").items =
      record.operations.map OperationRecord.form.write := rfl

theorem OperationRecord.items_events (record : OperationRecord) :
    ((form.write record).get "events").items = record.events.map ContractEvent.form.write := rfl

theorem ContractEvent.isNull_id (event : ContractEvent) :
    ((form.write event).get "id").isNull = event.id.isNone := by
  obtain ⟨id, contract, type, topics, data, assetEvent⟩ := event
  cases id with
  | none => rfl
  | some id => rfl

theorem EventLine.isNull_assetEvent (line : EventLine) :
    (line.document.get "asset_event").isNull = line.event.assetEvent.isNone := by
  obtain ⟨ledger, hash, operation, id, contract, type, topics, data, assetEvent⟩ := line
  cases assetEvent with
  | none => rfl
  | some assetEvent => rfl

/-- An event with its place in front is its line. -/
theorem withPlace_write (record : LedgerRecord) (transaction : TransactionRecord)
    (operation : OperationRecord) (event : ContractEvent) :
    (LedgerRecord.form.write record).withPlace (TransactionRecord.form.write transaction)
        (OperationRecord.form.write operation) (ContractEvent.form.write event) =
      EventLine.document ⟨record.summary.sequence, transaction.hash, operation.toid, event⟩ := by
  have hledger : ((LedgerRecord.form.write record).get "summary").get "sequence" =
      Form.uint32.write record.summary.sequence := LedgerSummary.get_sequence record.summary
  have hhash : (TransactionRecord.form.write transaction).get "hash" =
      Form.hash.write transaction.hash := rfl
  have htoid : (OperationRecord.form.write operation).get "toid" =
      Toid.form.write operation.toid := rfl
  rw [withPlace, hledger, hhash, htoid]
  rfl

theorem OperationRecord.filter_events (record : OperationRecord) :
    (record.events.map ContractEvent.form.write).filter (fun event => !(event.get "id").isNull) =
      record.identified.map ContractEvent.form.write := by
  refine filter_map_of_forall (fun event => ?_) record.events
  rw [ContractEvent.isNull_id, Option.not_isNone]

/-- The identified events of a document are the lines of its ledger. -/
theorem LedgerRecord.identifiedEvents_write (record : LedgerRecord) :
    (form.write record).identifiedEvents = record.eventLines.map (·.document) := by
  simp only [identifiedEvents, items_transactions, TransactionRecord.items_operations,
    OperationRecord.items_events, OperationRecord.filter_events, List.flatMap_map, List.map_map,
    Function.comp_def, withPlace_write, eventLines, TransactionRecord.eventLines,
    OperationRecord.eventLines, List.map_flatMap]

/-! ## Events that belong to no operation -/

/-- No event of a transaction as a whole has an identifier. -/
structure TransactionMeta.Unidentified (p : TransactionMeta) : Prop where
  events : ∀ e ∈ p.events, e.event.id = none
  diagnosticEvents : ∀ e ∈ p.diagnosticEvents, e.event.id = none

theorem LedgerRecord.isNull_id_of_mem_outerEvents {record : LedgerRecord}
    (h : ∀ transaction ∈ record.transactions, transaction.applied.Unidentified) {event : Json}
    (hevent : event ∈ (form.write record).outerEvents) : (event.get "id").isNull := by
  obtain ⟨json, hjson, hevent⟩ := List.mem_flatMap.mp hevent
  obtain ⟨transaction, htransaction, rfl⟩ := List.mem_map.mp hjson
  have hunidentified := h transaction htransaction
  have hevents : ∀ e : ContractEvent, e.id = none →
      ((ContractEvent.form.write e).get "id").isNull := by
    intro e he
    rw [ContractEvent.isNull_id, he]
    rfl
  rcases List.mem_append.mp hevent with hevent | hevent
  · obtain ⟨item, hitem, rfl⟩ := List.mem_map.mp hevent
    obtain ⟨e, he, rfl⟩ := List.mem_map.mp hitem
    exact hevents e.event (hunidentified.events e he)
  · obtain ⟨item, hitem, rfl⟩ := List.mem_map.mp hevent
    obtain ⟨e, he, rfl⟩ := List.mem_map.mp hitem
    exact hevents e.event (hunidentified.diagnosticEvents e he)

end Record

end LedgerExport
