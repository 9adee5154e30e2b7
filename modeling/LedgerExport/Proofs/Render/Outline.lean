import LedgerExport.Proofs.Position.Toid
import LedgerExport.Proofs.Render.EventSources

/-!
# The outline of a transaction

Whether a transaction can be shown is worked out before anything is: its place,
its result beside its operations, and the places of the operations. This outline
does not know of the options. They decide only what is filled in afterwards, and
filling in never fails.

## Implementation notes

The oldest versions of the metadata name no places, and the third one names only
that of the first operation, which always exists. So `entryCount` counts places
in the fourth version alone.
-/

namespace LedgerExport

variable {options : ExportOptions} {successful : Bool} {transaction : Toid} {error : Error}

/-! ## The places of operations -/

/-- The places of as many operations as `count`, from an order on. -/
def operationPlaces (transaction : Toid) : Nat → Nat → Except Error (List Toid)
  | _, 0 => .ok []
  | order, count + 1 => do
    let place ← transaction.atOperation order
    return place :: (← operationPlaces transaction (order + 1) count)

theorem operationPlaces_eq_ok {order count : Nat} {places : List Toid}
    (h : operationPlaces transaction order count = .ok places) :
    places.length = count ∧
      ∀ j place, places[j]? = some place → transaction.atOperation (order + j) = .ok place := by
  induction count generalizing order places with
  | zero =>
      cases h
      exact ⟨rfl, fun j place hj => by cases hj⟩
  | succ count ih =>
      obtain ⟨first, hfirst, h⟩ := bind_eq_ok_iff.mp h
      obtain ⟨more, hmore, h⟩ := bind_eq_ok_iff.mp h
      rw [← pure_eq_ok_iff.mp h]
      obtain ⟨hlength, hplaces⟩ := ih hmore
      refine ⟨by rw [List.length_cons, hlength], ?_⟩
      rintro (_ | j) place hj
      · rw [Nat.add_zero, hfirst, Option.some.inj hj]
      · rw [← Nat.add_assoc, Nat.add_right_comm]
        exact hplaces j place hj

/-- Places run out behind the last order that has one. -/
theorem operationPlaces_eq_error_iff {order count : Nat} (horder : order ≤ Toid.maxOperation + 1) :
    operationPlaces transaction order count = .error error ↔
      Toid.maxOperation + 1 < order + count ∧
        error = .operationRange (Toid.maxOperation + 1) := by
  induction count generalizing order with
  | zero =>
      constructor
      · intro h
        cases h
      · rintro ⟨hlt, _⟩
        omega
  | succ count ih =>
      rw [operationPlaces, bind_eq_error_iff, Toid.atOperation_eq_error_iff]
      simp only [bind_pure_eq_error_iff]
      constructor
      · rintro (⟨hlt, rfl⟩ | ⟨place, hplace, hmore⟩)
        · obtain rfl : order = Toid.maxOperation + 1 := by omega
          exact ⟨by omega, rfl⟩
        · have hle : order ≤ Toid.maxOperation := (Toid.make_eq_ok_iff.mp hplace).2.2.1
          rw [ih (Nat.succ_le_succ hle)] at hmore
          exact ⟨by omega, hmore.2⟩
      · rintro ⟨hlt, rfl⟩
        by_cases hle : order ≤ Toid.maxOperation
        · right
          obtain ⟨place, hplace⟩ : ∃ place, transaction.atOperation order = .ok place := by
            rw [exists_ok_iff]
            intro error herror
            have hrange := (Toid.atOperation_eq_error_iff.mp herror).1
            omega
          refine ⟨place, hplace, ?_⟩
          rw [ih (Nat.succ_le_succ hle)]
          exact ⟨by omega, rfl⟩
        · left
          obtain rfl : order = Toid.maxOperation + 1 := by omega
          exact ⟨Nat.lt_succ_self _, rfl⟩

/-- The records of operations stand at their places. -/
theorem operationRecords_eq_map_places (transaction : Toid) (order count : Nat)
    (results : List Record.OperationResult) (parts : List OperationPart) :
    operationRecords transaction order count results parts =
      (operationPlaces transaction order count).map fun places =>
        places.mapIdx fun j place =>
          ⟨place, UInt32.ofNat (order + j), results[j]?, (partAt parts j).changes,
            (partAt parts j).events⟩ := by
  -- Results and parts move on with the orders, so what is left of them is that of the next record.
  induction count generalizing order results parts with
  | zero => rfl
  | succ count ih =>
      rw [operationRecords, operationPlaces]
      cases transaction.atOperation order with
      | error error => rfl
      | ok place =>
          simp only [ih]
          cases operationPlaces transaction (order + 1) count with
          | error error => rfl
          | ok places =>
              have hresult : results.head? = results[0]? := List.head?_eq_getElem?
              have hpart : parts.headD .empty = partAt parts 0 := by cases parts <;> rfl
              have hresults (j : Nat) : results.tail[j]? = results[j + 1]? := List.getElem?_tail
              have hparts (j : Nat) : partAt parts.tail j = partAt parts (j + 1) := by
                rw [partAt, partAt, List.getElem?_tail]
              have horder (j : Nat) : order + 1 + j = order + (j + 1) := by omega
              simp only [hresults, hparts, horder, hresult, hpart]
              simp [bind, Except.bind, pure, Except.pure, Except.map, List.mapIdx_cons]

/-! ## Parts of the metadata -/

namespace Protocol

namespace TransactionMeta

/-- How many operations the metadata itself gives places to. -/
def entryCount : TransactionMeta → Nat
  | .v4 p => p.operations.length
  | _ => 0

/-- The changes that metadata holds for the operations of a transaction, by operation. -/
def changeLists : TransactionMeta → List (List EntryChange)
  | .v0 operations => operations.map (·.changes)
  | .v1 p => p.operations.map (·.changes)
  | .v2 p => p.operations.map (·.changes)
  | .v3 p => p.operations.map (·.changes)
  | .v4 p => p.operations.map (·.changes)

/-- The number of the version. -/
def version : TransactionMeta → UInt32
  | .v0 _ => 0
  | .v1 _ => 1
  | .v2 _ => 2
  | .v3 _ => 3
  | .v4 _ => 4

/-- The changes before the operations, where a version has them. -/
def changesBefore? : TransactionMeta → Option (List EntryChange)
  | .v0 _ => none
  | .v1 p => some p.changes
  | .v2 p => some p.changesBefore
  | .v3 p => some p.changesBefore
  | .v4 p => some p.changesBefore

/-- The changes after the operations, where a version has them. -/
def changesAfter? : TransactionMeta → Option (List EntryChange)
  | .v0 _ => none
  | .v1 _ => none
  | .v2 p => some p.changesAfter
  | .v3 p => some p.changesAfter
  | .v4 p => some p.changesAfter

/-- The events of the whole transaction. -/
def wholeEvents : TransactionMeta → List TransactionEvent
  | .v4 p => p.events
  | _ => []

/-- The diagnostic events, which the third version holds with its contract call. -/
def diagnosticEvents : TransactionMeta → List DiagnosticEvent
  | .v3 p => p.soroban.elim [] (·.diagnosticEvents)
  | .v4 p => p.diagnosticEvents
  | _ => []

/-- What is shown of a contract call. -/
def call? : TransactionMeta → Option Record.SorobanMeta
  | .v3 p => p.soroban.map fun s => ⟨some s.returnValue.render, s.fees.map (·.render)⟩
  | .v4 p => p.soroban.map fun s => ⟨s.returnValue.map (·.render), s.fees.map (·.render)⟩
  | _ => none

/-- What is shown of the metadata for the whole transaction. -/
def whole (options : ExportOptions) (applied : TransactionMeta) : Record.TransactionMeta where
  version := applied.version
  changesBefore := applied.changesBefore?.bind options.changes
  changesAfter := applied.changesAfter?.bind options.changes
  events := applied.wholeEvents.map (·.render)
  diagnosticEvents := options.diagnostics applied.diagnosticEvents
  soroban := applied.call?

end TransactionMeta

theorem diagnostics_nil (options : ExportOptions) : options.diagnostics [] = [] := by
  unfold ExportOptions.diagnostics
  split
  · rfl
  · rfl

/-- In every version, the whole is shown from what the version holds for it. -/
theorem TransactionMeta.whole_render {applied : TransactionMeta} {rendered : RenderedMeta}
    (h : applied.render options successful transaction = .ok rendered) :
    rendered.whole = applied.whole options := by
  cases applied with
  | v0 operations =>
      cases h
      simp only [whole, diagnosticEvents, diagnostics_nil]
      rfl
  | v1 parts =>
      cases h
      simp only [whole, diagnosticEvents, diagnostics_nil]
      rfl
  | v2 parts =>
      cases h
      simp only [whole, diagnosticEvents, diagnostics_nil]
      rfl
  | v3 parts =>
      rcases render_v3_cases h with ⟨hsoroban, rfl⟩ | ⟨soroban, first, hsoroban, -, rfl⟩
      · simp only [whole, diagnosticEvents, call?, hsoroban, Option.elim_none, diagnostics_nil]
        rfl
      · simp only [whole, diagnosticEvents, call?, hsoroban]
        rfl
  | v4 parts =>
      obtain ⟨operations, -, h⟩ := bind_eq_ok_iff.mp h
      rw [← pure_eq_ok_iff.mp h]
      rfl

theorem changes_partAt_map_part (options : ExportOptions) (operations : List OperationMeta)
    (j : Nat) : (partAt (operations.map (OperationMeta.part options)) j).changes =
      (operations.map (·.changes))[j]?.bind options.changes := by
  rw [partAt, List.getElem?_map, List.getElem?_map]
  cases operations[j]? with
  | none => rfl
  | some operation => rfl

theorem changes_partAt_giveToFirst (events : List Record.ContractEvent)
    (parts : List OperationPart) (j : Nat) :
    (partAt (giveToFirst events parts) j).changes = (partAt parts j).changes := by
  cases parts with
  | nil => cases j <;> rfl
  | cons part more => cases j <;> rfl

theorem changes_partAt_operationParts {order : Nat} {operations : List OperationMetaV2}
    {parts : List OperationPart}
    (h : operationParts options successful transaction order operations = .ok parts) (j : Nat) :
    (partAt parts j).changes = (operations.map (·.changes))[j]?.bind options.changes := by
  induction operations generalizing order parts j with
  | nil =>
      cases h
      rfl
  | cons operation more ih =>
      obtain ⟨first, -, h⟩ := bind_eq_ok_iff.mp h
      obtain ⟨rest, hrest, h⟩ := bind_eq_ok_iff.mp h
      rw [← pure_eq_ok_iff.mp h]
      cases j with
      | zero => rfl
      | succ j => exact ih hrest j

/-- In every version of the metadata, a part has the changes that it holds for the operation. -/
theorem TransactionMeta.changes_render {applied : TransactionMeta} {rendered : RenderedMeta}
    (h : applied.render options successful transaction = .ok rendered) (j : Nat) :
    (partAt rendered.operations j).changes = applied.changeLists[j]?.bind options.changes := by
  cases applied with
  | v0 operations =>
      cases h
      exact changes_partAt_map_part options operations j
  | v1 parts =>
      cases h
      exact changes_partAt_map_part options parts.operations j
  | v2 parts =>
      cases h
      exact changes_partAt_map_part options parts.operations j
  | v3 parts =>
      rcases render_v3_cases h with ⟨-, rfl⟩ | ⟨soroban, first, -, -, rfl⟩
      · exact changes_partAt_map_part options parts.operations j
      · rw [changes_partAt_giveToFirst]
        exact changes_partAt_map_part options parts.operations j
  | v4 parts =>
      obtain ⟨operations, hoperations, h⟩ := bind_eq_ok_iff.mp h
      rw [← pure_eq_ok_iff.mp h]
      exact changes_partAt_operationParts hoperations j

theorem operationParts_eq_error_iff {order : Nat} {operations : List OperationMetaV2} :
    operationParts options successful transaction order operations = .error error ↔
      operationPlaces transaction order operations.length = .error error := by
  induction operations generalizing order with
  | nil => exact iff_of_false nofun nofun
  | cons operation more ih =>
      rw [operationParts, List.length_cons, operationPlaces, bind_eq_error_iff, bind_eq_error_iff]
      simp only [bind_pure_eq_error_iff, ih]

/-- Metadata cannot be shown if it names a place that no operation has. -/
theorem TransactionMeta.render_eq_error_iff {applied : TransactionMeta} :
    applied.render options successful transaction = .error error ↔
      operationPlaces transaction 1 applied.entryCount = .error error := by
  have hnone : operationPlaces transaction 1 0 ≠ .error error := nofun
  cases applied with
  | v0 operations => exact iff_of_false nofun hnone
  | v1 parts => exact iff_of_false nofun hnone
  | v2 parts => exact iff_of_false nofun hnone
  | v3 parts =>
      refine iff_of_false (fun h => ?_) hnone
      simp only [render] at h
      split at h
      · cases h
      · rw [bind_pure_eq_error_iff, Toid.atOperation_eq_error_iff] at h
        exact absurd h.1 (by decide)
  | v4 parts =>
      rw [render, bind_pure_eq_error_iff, entryCount]
      exact operationParts_eq_error_iff

end Protocol

/-! ## Outlines -/

/-- What is worked out of a transaction before anything of it is shown. -/
structure TransactionOutline where
  toid : Toid
  result : Record.TransactionResult
  places : List Toid

namespace TransactionClosing

/-- The outline of the transaction at a place of a ledger. -/
def outline (ledger order : Nat) (closing : TransactionClosing) :
    Except Error TransactionOutline := do
  let toid ← Toid.ofTransaction ledger order
  let result ← closing.result.result.render (closing.envelope.operations.map (·.body.kind))
  let _ ← operationPlaces toid 1 closing.applied.entryCount
  let places ← operationPlaces toid 1 closing.envelope.operations.length
  return ⟨toid, result, places⟩

/-- The record of the operation at a place, behind `j` others. -/
def recordAt (options : ExportOptions) (closing : TransactionClosing)
    (result : Record.TransactionResult) (j : Nat) (place : Toid) : Record.OperationRecord where
  toid := place
  order := UInt32.ofNat (1 + j)
  result := (result.effectiveResults.getD [])[j]?
  changes := closing.applied.changeLists[j]?.bind options.changes
  events := operationEvents options result.isSuccess place
    ((closing.applied.sources options)[j]?.getD [])

/-- The record of a transaction from its outline. -/
def fill (options : ExportOptions) (order : Nat) (closing : TransactionClosing)
    (outline : TransactionOutline) : Record.TransactionRecord where
  hash := closing.result.hash
  order := UInt32.ofNat order
  toid := outline.toid
  successful := outline.result.isSuccess
  envelope := closing.envelope.render
  result := outline.result
  feeChanges := options.changes closing.feeChanges
  postApplyFeeChanges := closing.postApplyFeeChanges.bind options.changes
  applied := closing.applied.whole options
  operations := outline.places.mapIdx (closing.recordAt options outline.result)

/-- The metadata has for each operation the changes and events that fill in its record. -/
theorem mapIdx_recordAt {closing : TransactionClosing} {result : Record.TransactionResult}
    {rendered : RenderedMeta} {count : Nat} {places : List Toid}
    (hrendered : closing.applied.render options result.isSuccess transaction = .ok rendered)
    (hplaces : operationPlaces transaction 1 count = .ok places) :
    (places.mapIdx fun j place => (⟨place, UInt32.ofNat (1 + j),
        (result.effectiveResults.getD [])[j]?, (partAt rendered.operations j).changes,
        (partAt rendered.operations j).events⟩ : Record.OperationRecord)) =
      places.mapIdx (closing.recordAt options result) := by
  rw [List.mapIdx_eq_mapIdx_iff]
  intro j hj
  have hplace : transaction.atOperation (1 + j) = .ok places[j] :=
    (operationPlaces_eq_ok hplaces).2 j places[j] (List.getElem?_eq_getElem hj)
  rw [recordAt, Protocol.TransactionMeta.changes_render hrendered,
    Protocol.TransactionMeta.events_render hrendered hplace]

/-- A transaction is shown by filling in its outline. -/
theorem render_eq_map_outline (options : ExportOptions) (ledger order : Nat)
    (closing : TransactionClosing) :
    closing.render options ledger order =
      (closing.outline ledger order).map (closing.fill options order) := by
  rw [render, outline]
  cases Toid.ofTransaction ledger order with
  | error error => rfl
  | ok toid =>
      simp only [ok_bind, operationRecords_eq_map_places]
      cases closing.result.result.render (closing.envelope.operations.map (·.body.kind)) with
      | error error => rfl
      | ok result =>
          simp only [ok_bind]
          cases hrendered : closing.applied.render options result.isSuccess toid with
          | error error =>
              rw [Protocol.TransactionMeta.render_eq_error_iff.mp hrendered]
              rfl
          | ok rendered =>
              obtain ⟨entries, hentries⟩ :
                  ∃ entries, operationPlaces toid 1 closing.applied.entryCount = .ok entries := by
                rw [exists_ok_iff]
                intro error herror
                rw [Protocol.TransactionMeta.render_eq_error_iff.mpr herror] at hrendered
                cases hrendered
              simp only [ok_bind, hentries]
              cases hplaces : operationPlaces toid 1 closing.envelope.operations.length with
              | error error => rfl
              | ok places =>
                  rw [ok_bind, map_ok, ok_bind, mapIdx_recordAt hrendered hplaces,
                    Protocol.TransactionMeta.whole_render hrendered]
                  rfl

/-- An outline fails at the place, at the result, or at the places of operations. -/
theorem outline_eq_error_iff {ledger order : Nat} {closing : TransactionClosing} :
    closing.outline ledger order = .error error ↔
      Toid.ofTransaction ledger order = .error error ∨
      ∃ toid, Toid.ofTransaction ledger order = .ok toid ∧
        (closing.result.result.render (closing.envelope.operations.map (·.body.kind)) =
            .error error ∨
          ∃ result, closing.result.result.render (closing.envelope.operations.map (·.body.kind)) =
              .ok result ∧
            (operationPlaces toid 1 closing.applied.entryCount = .error error ∨
              ∃ entries, operationPlaces toid 1 closing.applied.entryCount = .ok entries ∧
                operationPlaces toid 1 closing.envelope.operations.length = .error error)) := by
  rw [outline, bind_eq_error_iff]
  refine or_congr_right (exists_congr fun toid => and_congr_right fun _ => ?_)
  rw [bind_eq_error_iff]
  refine or_congr_right (exists_congr fun result => and_congr_right fun _ => ?_)
  rw [bind_eq_error_iff]
  exact or_congr_right (exists_congr fun entries => and_congr_right fun _ => bind_pure_eq_error_iff)

theorem exists_outline_of_render {ledger order : Nat} {closing : TransactionClosing}
    {record : Record.TransactionRecord} (h : closing.render options ledger order = .ok record) :
    ∃ outline, closing.outline ledger order = .ok outline ∧
      closing.fill options order outline = record := by
  rwa [render_eq_map_outline, map_eq_ok_iff] at h

/-- An outline has the place and the result of the transaction, and the places of its
operations. -/
theorem outline_eq_ok {ledger order : Nat} {closing : TransactionClosing}
    {outline : TransactionOutline} (h : closing.outline ledger order = .ok outline) :
    Toid.ofTransaction ledger order = .ok outline.toid ∧
      closing.result.result.render (closing.envelope.operations.map (·.body.kind)) =
        .ok outline.result ∧
      operationPlaces outline.toid 1 closing.envelope.operations.length = .ok outline.places := by
  obtain ⟨toid, htoid, h⟩ := bind_eq_ok_iff.mp h
  obtain ⟨result, hresult, h⟩ := bind_eq_ok_iff.mp h
  obtain ⟨entries, -, h⟩ := bind_eq_ok_iff.mp h
  obtain ⟨places, hplaces, h⟩ := bind_eq_ok_iff.mp h
  rw [← pure_eq_ok_iff.mp h]
  exact ⟨htoid, hresult, hplaces⟩

end TransactionClosing

end LedgerExport
