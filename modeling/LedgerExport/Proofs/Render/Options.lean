import LedgerExport.Proofs.Render.Outline

/-!
# What the options decide

Every option owns some part of the records of a ledger: the lists of changes,
the diagnostic events, the marks of events, the verdict on their contracts, or
the events of a contract call. Two exports of one ledger that differ in one
option differ at most in the part that it owns, and all exports of a ledger
succeed or fail alike.

## Implementation notes

A record is filled in from an outline that knows of no options. So each part is
compared in two fillings of one outline, and the comparison is lifted from
there, first along the transactions and then to the ledger with its summary.
-/

namespace LedgerExport

/-! ## Parts that are cleared -/

namespace Record

/-- It is left open whether the event comes from the contract of its asset. -/
def AssetEvent.withoutContractCheck (event : AssetEvent) : AssetEvent :=
  { event with assetContract := false }

def ContractEvent.withoutContractCheck (event : ContractEvent) : ContractEvent :=
  { event with assetEvent := event.assetEvent.map (·.withoutContractCheck) }

namespace OperationRecord

/-- The record of an operation with each of its events replaced. -/
def mapEvents (f : ContractEvent → ContractEvent) (record : OperationRecord) : OperationRecord :=
  { record with events := record.events.map f }

def withoutChanges (record : OperationRecord) : OperationRecord :=
  { record with changes := none }

def withoutEvents (record : OperationRecord) : OperationRecord :=
  { record with events := [] }

end OperationRecord

/-- The metadata is of the third version and reports a contract call. -/
def TransactionMeta.reportsCall (p : TransactionMeta) : Bool :=
  p.version == 3 && p.soroban.isSome

namespace TransactionRecord

/-- The record of a transaction with each of its operations replaced. -/
def mapOperations (f : OperationRecord → OperationRecord) (record : TransactionRecord) :
    TransactionRecord :=
  { record with operations := record.operations.map f }

/-- Without the changes of the fees, of the whole transaction and of its operations. -/
def withoutChanges (record : TransactionRecord) : TransactionRecord :=
  { record.mapOperations (·.withoutChanges) with
    feeChanges := none
    postApplyFeeChanges := none
    applied := { record.applied with changesBefore := none, changesAfter := none } }

def withoutDiagnostics (record : TransactionRecord) : TransactionRecord :=
  { record with applied := { record.applied with diagnosticEvents := [] } }

/-- It is left open whether events come from the contracts of their assets. -/
def withoutContractChecks (record : TransactionRecord) : TransactionRecord :=
  record.mapOperations (·.mapEvents (·.withoutContractCheck))

/-- The events of the operations have no identifiers and no asset events. -/
def withoutMarks (record : TransactionRecord) : TransactionRecord :=
  record.mapOperations (·.mapEvents (·.cleared))

/-- Without the events of the first operation, if they are those of a contract call that the third
version of the metadata reports. -/
def withoutCallEvents (record : TransactionRecord) : TransactionRecord :=
  if record.applied.reportsCall then
    { record with operations := record.operations.modifyHead (·.withoutEvents) }
  else record

/-- Without all that some option decides. -/
def bare (record : TransactionRecord) : TransactionRecord :=
  record.withoutChanges.withoutDiagnostics.mapOperations (·.withoutEvents)

/-- What is left of a record counts for as much as the record. -/
structure KeepsCounts (f : TransactionRecord → TransactionRecord) : Prop where
  successful (record : TransactionRecord) : (f record).successful = record.successful
  length_operations (record : TransactionRecord) :
    (f record).operations.length = record.operations.length

theorem keepsCounts_mapOperations (f : OperationRecord → OperationRecord) :
    KeepsCounts (mapOperations f) :=
  ⟨fun _ => rfl, fun _ => List.length_map f⟩

theorem keepsCounts_withoutChanges : KeepsCounts withoutChanges :=
  ⟨fun _ => rfl, fun _ => List.length_map _⟩

theorem keepsCounts_withoutDiagnostics : KeepsCounts withoutDiagnostics :=
  ⟨fun _ => rfl, fun _ => rfl⟩

theorem keepsCounts_withoutCallEvents : KeepsCounts withoutCallEvents := by
  constructor
  · intro record
    unfold withoutCallEvents
    split
    · rfl
    · rfl
  · intro record
    unfold withoutCallEvents
    split
    · exact List.length_modifyHead
    · rfl

theorem keepsCounts_bare : KeepsCounts bare :=
  ⟨fun _ => rfl, fun record => by simp [bare, withoutChanges, withoutDiagnostics, mapOperations]⟩

end TransactionRecord

/-- The record of a ledger with each of its transactions replaced. -/
def LedgerRecord.mapTransactions (f : TransactionRecord → TransactionRecord)
    (record : LedgerRecord) : LedgerRecord :=
  { record with transactions := record.transactions.map f }

end Record

open Record (TransactionRecord OperationRecord)

/-! ## From transactions to the ledger -/

section Lifting

variable {options options' : ExportOptions} {clear : TransactionRecord → TransactionRecord}

/-- Fillings of one outline that are alike make records that are. -/
theorem TransactionClosing.map_render_eq {order : Nat} {closing : TransactionClosing} (ledger : Nat)
    (h : ∀ outline, clear (closing.fill options order outline) =
      clear (closing.fill options' order outline)) :
    (closing.render options ledger order).map clear =
      (closing.render options' ledger order).map clear := by
  rw [render_eq_map_outline, render_eq_map_outline]
  cases closing.outline ledger order with
  | error error => rfl
  | ok outline => rw [map_ok, map_ok, map_ok, map_ok, h]

theorem map_transactionRecords_eq
    (h : ∀ order (closing : TransactionClosing) outline,
      clear (closing.fill options order outline) = clear (closing.fill options' order outline))
    (ledger order : Nat) (closings : List TransactionClosing) :
    (transactionRecords options ledger order closings).map (List.map clear) =
      (transactionRecords options' ledger order closings).map (List.map clear) := by
  induction closings generalizing order with
  | nil => rfl
  | cons closing closings ih =>
      have hfirst := alike_of_map_eq (closing.map_render_eq ledger (h order closing))
      have hmore := alike_of_map_eq (ih (order + 1))
      rw [transactionRecords, transactionRecords]
      generalize closing.render options ledger order = step at hfirst ⊢
      generalize closing.render options' ledger order = step' at hfirst ⊢
      generalize transactionRecords options ledger (order + 1) closings = steps at hmore ⊢
      generalize transactionRecords options' ledger (order + 1) closings = steps' at hmore ⊢
      cases hfirst with
      | error error => rfl
      | ok hrecord =>
          cases hmore with
          | error error => rfl
          | ok hrecords => exact congrArg Except.ok (congrArg₂ List.cons hrecord hrecords)

section Counts

variable (hclear : TransactionRecord.KeepsCounts clear)

include hclear

theorem filter_map_of_keepsCounts (records : List TransactionRecord) :
    (records.map clear).filter (·.successful) = (records.filter (·.successful)).map clear := by
  rw [List.filter_map]
  congr 2
  funext record
  exact hclear.successful record

theorem operationTotal_map_of_keepsCounts (records : List TransactionRecord) :
    operationTotal (records.map clear) = operationTotal records := by
  rw [operationTotal, operationTotal, List.length_flatMap, List.length_flatMap, List.map_map]
  congr 2
  funext record
  exact hclear.length_operations record

end Counts

/-- Transactions that are alike count alike, so the summaries of their ledgers are the same. -/
theorem LedgerClosing.map_render_eq (hclear : TransactionRecord.KeepsCounts clear)
    (h : ∀ order (closing : TransactionClosing) outline,
      clear (closing.fill options order outline) = clear (closing.fill options' order outline))
    (closing : LedgerClosing) :
    (closing.render options).map (·.mapTransactions clear) =
      (closing.render options').map (·.mapTransactions clear) := by
  have hrecords := alike_of_map_eq
    (map_transactionRecords_eq h closing.header.header.ledgerSeq.toNat 1 closing.transactions)
  rw [render, render]
  generalize transactionRecords options _ 1 closing.transactions = step at hrecords ⊢
  generalize transactionRecords options' _ 1 closing.transactions = step' at hrecords ⊢
  cases hrecords with
  | error error => rfl
  | @ok records records' hrecords =>
      cases closing.header.header.closeValue.upgrades.mapM Protocol.LedgerUpgrade.ofBytes with
      | error error => rfl
      | ok upgrades =>
          have hlength : records.length = records'.length := by
            rw [← List.length_map clear, hrecords, List.length_map]
          have htotal : operationTotal records = operationTotal records' := by
            rw [← operationTotal_map_of_keepsCounts hclear, hrecords,
              operationTotal_map_of_keepsCounts hclear]
          have hsuccessful : (records.filter (·.successful)).map clear =
              (records'.filter (·.successful)).map clear := by
            rw [← filter_map_of_keepsCounts hclear, hrecords, filter_map_of_keepsCounts hclear]
          have hcount : (records.filter (·.successful)).length =
              (records'.filter (·.successful)).length := by
            rw [← List.length_map clear, hsuccessful, List.length_map]
          have hoperations : operationTotal (records.filter (·.successful)) =
              operationTotal (records'.filter (·.successful)) := by
            rw [← operationTotal_map_of_keepsCounts hclear, hsuccessful,
              operationTotal_map_of_keepsCounts hclear]
          simp only [ok_bind, pure, Except.pure, map_ok, Record.LedgerRecord.mapTransactions,
            hlength, hcount, htotal, hoperations, hrecords]

end Lifting

/-! ## What an option decides -/

section Harvest

variable {options options' : HarvestOptions}

theorem AssetEvent.map_decode_withoutContractCheck (kind : Kind) (event : Protocol.ContractEvent)
    (network network' : Option NetworkId) :
    (decode kind event network).map (·.withoutContractCheck) =
      (decode kind event network').map (·.withoutContractCheck) := by
  rw [decode, decode]
  cases decodeMove kind event with
  | error malformed => rfl
  | ok move => rfl

/-- Whether an event is emitted does not depend on the network. -/
theorem Harvest.alike_verdict (h : options.decodeAssetEvents = options'.decodeAssetEvents)
    (source : SourceEvent) :
    Alike (fun a a' => a.map (·.withoutContractCheck) = a'.map (·.withoutContractCheck))
      (verdict options source) (verdict options' source) := by
  rw [verdict, verdict, h]
  split
  · split
    · cases AssetEvent.classify source.event with
      | recognized kind =>
          have hdecode := alike_of_map_eq (AssetEvent.map_decode_withoutContractCheck kind
            source.event options.network options'.network)
          simp only
          generalize AssetEvent.decode kind source.event options.network = step at hdecode ⊢
          generalize AssetEvent.decode kind source.event options'.network = step' at hdecode ⊢
          cases hdecode with
          | error malformed => exact .error _
          | ok hdecoded => exact .ok (congrArg some hdecoded)
      | notRecognized => exact .ok rfl
      | notCandidate => exact .ok rfl
    · exact .ok rfl
  · exact .error _

/-- Two harvests in two networks differ in the verdicts on contracts alone. -/
theorem Harvest.map_render_withoutContractCheck
    (h : options.decodeAssetEvents = options'.decodeAssetEvents) (place : Toid) (emitted : UInt32)
    (sources : List SourceEvent) :
    (operationFrom place options emitted sources).map (·.render.withoutContractCheck) =
      (operationFrom place options' emitted sources).map (·.render.withoutContractCheck) := by
  induction sources generalizing emitted with
  | nil => rfl
  | cons source sources ih =>
      have hverdict := alike_verdict h source
      rw [operationFrom, operationFrom]
      generalize verdict options source = step at hverdict ⊢
      generalize verdict options' source = step' at hverdict ⊢
      cases hverdict with
      | error reason => simp only [List.map_cons, ih]
      | ok hassetEvent =>
          simp only [List.map_cons, ih]
          congr 1
          simp only [Harvested.render, Harvested.event, Harvested.id?, Harvested.assetEvent?,
            Protocol.ContractEvent.renderWith, Record.ContractEvent.withoutContractCheck,
            hassetEvent]

end Harvest

theorem map_withoutContractCheck_operationEvents (options : ExportOptions) (network : NetworkId)
    (successful : Bool) (place : Toid) (sources : List SourceEvent) :
    (operationEvents options successful place sources).map (·.withoutContractCheck) =
      (operationEvents { options with network := network } successful place sources).map
        (·.withoutContractCheck) := by
  have hevents (options : ExportOptions) :
      (operationEvents options true place sources).map (·.withoutContractCheck) =
        (Harvest.operationFrom place options.harvest 0 sources).map
          (·.render.withoutContractCheck) := by
    rw [operationEvents, if_pos rfl, List.map_map, Harvest.operation]
    rfl
  cases successful with
  | false => rw [operationEvents_unsuccessful, operationEvents_unsuccessful]
  | true =>
      rw [hevents, hevents]
      apply Harvest.map_render_withoutContractCheck
      rfl

namespace Protocol.TransactionMeta

/-- The metadata is of the third version and holds a contract call. -/
def reportsCall : TransactionMeta → Bool
  | .v3 p => p.soroban.isSome
  | _ => false

theorem reportsCall_whole (options : ExportOptions) (applied : TransactionMeta) :
    (applied.whole options).reportsCall = applied.reportsCall := by
  cases applied with
  | v0 operations => rfl
  | v1 parts => rfl
  | v2 parts => rfl
  | v3 parts => exact Option.isSome_map
  | v4 parts => rfl

/-- A contract call that is reported in the third version is that of the first operation. -/
theorem getElem?_sources_of_reportsCall {options : ExportOptions} {applied : TransactionMeta}
    (h : applied.reportsCall = true) (j : Nat) : (applied.sources options)[j + 1]? = none := by
  cases applied with
  | v0 operations => rfl
  | v1 parts => rfl
  | v2 parts => rfl
  | v3 parts =>
      obtain ⟨soroban, hsoroban⟩ := Option.isSome_iff_exists.mp h
      rw [sources, hsoroban]
      rfl
  | v4 parts => cases h

theorem sources_of_not_reportsCall (options : ExportOptions) (used : Bool)
    {applied : TransactionMeta} (h : ¬ applied.reportsCall = true) :
    applied.sources options = applied.sources { options with useDiagnosticEvents := used } := by
  cases applied with
  | v0 operations => rfl
  | v1 parts => rfl
  | v2 parts => rfl
  | v3 parts =>
      rw [reportsCall, Option.not_isSome_iff_eq_none] at h
      rw [sources, sources, h]
      rfl
  | v4 parts => rfl

end Protocol.TransactionMeta

namespace TransactionClosing

/-- Fillings of one outline have operations that are alike if those of each place are. -/
theorem map_operations_fill {f : OperationRecord → OperationRecord}
    (options options' : ExportOptions) (order : Nat) (closing : TransactionClosing)
    (outline : TransactionOutline)
    (h : ∀ j place, f (closing.recordAt options outline.result j place) =
      f (closing.recordAt options' outline.result j place)) :
    (closing.fill options order outline).operations.map f =
      (closing.fill options' order outline).operations.map f := by
  apply List.ext_getElem?
  intro j
  rw [fill, fill, List.getElem?_map, List.getElem?_map, List.getElem?_mapIdx,
    List.getElem?_mapIdx]
  cases outline.places[j]? with
  | none => rfl
  | some place => exact congrArg some (h j place)

/-- Without all that options decide, only the outline is left. -/
theorem bare_fill (options options' : ExportOptions) (order : Nat) (closing : TransactionClosing)
    (outline : TransactionOutline) :
    (closing.fill options order outline).bare = (closing.fill options' order outline).bare := by
  have hoperations := map_operations_fill (f := (·.withoutEvents) ∘ (·.withoutChanges))
    options options' order closing outline (fun _ _ => rfl)
  rw [← List.map_map, ← List.map_map] at hoperations
  rw [TransactionRecord.bare, TransactionRecord.bare, TransactionRecord.mapOperations,
    TransactionRecord.mapOperations]
  simp only [TransactionRecord.withoutDiagnostics, TransactionRecord.withoutChanges,
    TransactionRecord.mapOperations, hoperations]
  rfl

/-- Fillings whose operations are alike are alike as a whole, if nothing else is filled in
otherwise. -/
theorem mapOperations_fill {f : OperationRecord → OperationRecord}
    (options options' : ExportOptions) (order : Nat) (closing : TransactionClosing)
    (outline : TransactionOutline)
    (h : ∀ j place, f (closing.recordAt options outline.result j place) =
      f (closing.recordAt options' outline.result j place))
    (hwhole : closing.applied.whole options = closing.applied.whole options')
    (hchanges : options.changes = options'.changes) :
    (closing.fill options order outline).mapOperations f =
      (closing.fill options' order outline).mapOperations f := by
  rw [TransactionRecord.mapOperations, TransactionRecord.mapOperations,
    map_operations_fill options options' order closing outline h]
  simp only [fill, hwhole, hchanges]

section Choices

variable (options : ExportOptions) (order : Nat) (closing : TransactionClosing)
  (outline : TransactionOutline)

theorem withoutChanges_fill (shown : Bool) :
    (closing.fill options order outline).withoutChanges =
      (closing.fill { options with includeLedgerChanges := shown } order
        outline).withoutChanges := by
  have hoperations := map_operations_fill (f := (·.withoutChanges)) options
    { options with includeLedgerChanges := shown } order closing outline (fun _ _ => rfl)
  rw [TransactionRecord.withoutChanges, TransactionRecord.withoutChanges,
    TransactionRecord.mapOperations, TransactionRecord.mapOperations, hoperations]
  rfl

theorem withoutDiagnostics_fill (shown : Bool) :
    (closing.fill options order outline).withoutDiagnostics =
      (closing.fill { options with includeDiagnosticEvents := shown } order
        outline).withoutDiagnostics :=
  rfl

theorem withoutContractChecks_fill (network : NetworkId) :
    (closing.fill options order outline).withoutContractChecks =
      (closing.fill { options with network := network } order
        outline).withoutContractChecks := by
  refine mapOperations_fill options { options with network := network } order closing outline
    (fun j place => congrArg (OperationRecord.mk place _ _ _) ?_) rfl rfl
  exact map_withoutContractCheck_operationEvents options network _ place _

theorem withoutMarks_fill (decoded : Bool) :
    (closing.fill options order outline).withoutMarks =
      (closing.fill { options with decodeAssetEvents := decoded } order
        outline).withoutMarks := by
  refine mapOperations_fill options { options with decodeAssetEvents := decoded } order closing
    outline (fun j place => congrArg (OperationRecord.mk place _ _ _) ?_) rfl rfl
  exact (map_cleared_operationEvents _ _ place _).trans
    (map_cleared_operationEvents _ _ place _).symm

theorem withoutCallEvents_fill (used : Bool) :
    (closing.fill options order outline).withoutCallEvents =
      (closing.fill { options with useDiagnosticEvents := used } order
        outline).withoutCallEvents := by
  let options' := { options with useDiagnosticEvents := used }
  have hreports (options : ExportOptions) :
      (closing.fill options order outline).applied.reportsCall = closing.applied.reportsCall :=
    Protocol.TransactionMeta.reportsCall_whole options closing.applied
  rw [TransactionRecord.withoutCallEvents, TransactionRecord.withoutCallEvents, hreports, hreports]
  split
  · next hcall =>
      have hoperations :
          (closing.fill options order outline).operations.modifyHead (·.withoutEvents) =
            (closing.fill options' order outline).operations.modifyHead (·.withoutEvents) := by
        rw [fill, fill]
        cases outline.places with
        | nil => rfl
        | cons place places =>
            rw [List.mapIdx_cons, List.mapIdx_cons, List.modifyHead_cons, List.modifyHead_cons]
            refine congrArg₂ List.cons rfl ?_
            congr 1
            funext j place
            rw [recordAt, recordAt, Protocol.TransactionMeta.getElem?_sources_of_reportsCall hcall,
              Protocol.TransactionMeta.getElem?_sources_of_reportsCall hcall]
            rfl
      rw [hoperations]
      rfl
  · next hcall =>
      have hsources := Protocol.TransactionMeta.sources_of_not_reportsCall options used hcall
      have hrecordAt : closing.recordAt options outline.result =
          closing.recordAt options' outline.result := by
        funext j place
        rw [recordAt, recordAt, hsources]
        rfl
      rw [fill, fill, hrecordAt]
      rfl

theorem withoutChanges_fill_of_excluded (h : options.includeLedgerChanges = false) :
    (closing.fill options order outline).withoutChanges = closing.fill options order outline := by
  have hchanges : options.changes = fun _ => none := by
    funext changes
    rw [ExportOptions.changes, h]
    rfl
  have hoperations : (closing.fill options order outline).operations.map (·.withoutChanges) =
      (closing.fill options order outline).operations := by
    rw [fill, List.map_eq_iff]
    intro j
    rw [List.getElem?_mapIdx]
    cases outline.places[j]? with
    | none => rfl
    | some place =>
        simp only [Option.map_some, recordAt, hchanges, Option.bind_fun_none]
        rfl
  rw [TransactionRecord.withoutChanges, TransactionRecord.mapOperations, hoperations]
  simp only [fill, Protocol.TransactionMeta.whole, hchanges, Option.bind_fun_none]

end Choices

end TransactionClosing

/-! ## What an option decides of a ledger -/

/-- If changes are not shown, a ledger has none that could be cleared. -/
theorem LedgerClosing.withoutChanges_render {options : ExportOptions} {closing : LedgerClosing}
    {record : Record.LedgerRecord} (h : options.includeLedgerChanges = false)
    (hrender : closing.render options = .ok record) :
    record.mapTransactions (·.withoutChanges) = record := by
  have htransactions : record.transactions.map (·.withoutChanges) = record.transactions := by
    rw [List.map_eq_iff]
    intro i
    cases hi : record.transactions[i]? with
    | none => rfl
    | some transaction =>
        obtain ⟨applied, -, happlied⟩ := exists_of_getElem?_transactions hrender hi
        obtain ⟨outline, -, rfl⟩ := TransactionClosing.exists_outline_of_render happlied
        rw [Option.map_some, TransactionClosing.withoutChanges_fill_of_excluded options _ _ _ h]
  rw [Record.LedgerRecord.mapTransactions, htransactions]

/-- Two records of one ledger, as far as their options agree. -/
structure Record.LedgerRecord.AlikeUnder (options options' : ExportOptions)
    (record record' : LedgerRecord) : Prop where
  summary : record.summary = record'.summary
  bare : record.mapTransactions (·.bare) = record'.mapTransactions (·.bare)
  changes : options' = { options with includeLedgerChanges := options'.includeLedgerChanges } →
    record.mapTransactions (·.withoutChanges) = record'.mapTransactions (·.withoutChanges)
  noChanges : options.includeLedgerChanges = false →
    record.mapTransactions (·.withoutChanges) = record
  diagnostics :
    options' = { options with includeDiagnosticEvents := options'.includeDiagnosticEvents } →
      record.mapTransactions (·.withoutDiagnostics) = record'.mapTransactions (·.withoutDiagnostics)
  contractChecks : options' = { options with network := options'.network } →
    record.mapTransactions (·.withoutContractChecks) =
      record'.mapTransactions (·.withoutContractChecks)
  marks : options' = { options with decodeAssetEvents := options'.decodeAssetEvents } →
    record.mapTransactions (·.withoutMarks) = record'.mapTransactions (·.withoutMarks)
  callEvents : options' = { options with useDiagnosticEvents := options'.useDiagnosticEvents } →
    record.mapTransactions (·.withoutCallEvents) = record'.mapTransactions (·.withoutCallEvents)

/-- Options do not decide whether a ledger can be shown, nor its summary. One option decides
nothing but its own part of the transactions. -/
theorem options_decide_only_their_parts (closing : LedgerClosing)
    (options options' : ExportOptions) :
    Alike (Record.LedgerRecord.AlikeUnder options options') (closing.render options)
      (closing.render options') := by
  have hbare := closing.map_render_eq TransactionRecord.keepsCounts_bare
    (TransactionClosing.bare_fill options options')
  cases hrender : closing.render options with
  | error error =>
      rw [hrender, map_error, eq_comm, map_eq_error_iff] at hbare
      rw [hbare]
      exact .error error
  | ok record =>
      rw [hrender, map_ok, eq_comm, map_eq_ok_iff] at hbare
      obtain ⟨record', hrender', hbare⟩ := hbare
      have halike {clear : TransactionRecord → TransactionRecord}
          (hclear : TransactionRecord.KeepsCounts clear)
          (h : ∀ order (closing : TransactionClosing) outline,
            clear (closing.fill options order outline) =
              clear (closing.fill options' order outline)) :
          record.mapTransactions clear = record'.mapTransactions clear := by
        have hmap := closing.map_render_eq hclear h
        rw [hrender, hrender'] at hmap
        exact Except.ok.inj hmap
      rw [hrender']
      refine .ok {
        summary := congrArg (·.summary) hbare.symm
        bare := hbare.symm
        changes := fun hoptions => halike TransactionRecord.keepsCounts_withoutChanges ?_
        noChanges := fun hexcluded => closing.withoutChanges_render hexcluded hrender
        diagnostics := fun hoptions => halike TransactionRecord.keepsCounts_withoutDiagnostics ?_
        contractChecks := fun hoptions =>
          halike (TransactionRecord.keepsCounts_mapOperations _) ?_
        marks := fun hoptions => halike (TransactionRecord.keepsCounts_mapOperations _) ?_
        callEvents := fun hoptions => halike TransactionRecord.keepsCounts_withoutCallEvents ?_ }
      all_goals
        intro order closing outline
        rw [hoptions]
      · exact closing.withoutChanges_fill options order outline _
      · exact closing.withoutDiagnostics_fill options order outline _
      · exact closing.withoutContractChecks_fill options order outline _
      · exact closing.withoutMarks_fill options order outline _
      · exact closing.withoutCallEvents_fill options order outline _

end LedgerExport
