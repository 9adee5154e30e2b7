import LedgerExport.Proofs.Render.EventSources
import LedgerExport.Proofs.Render.Outcomes

/-!
# Success and identifiers

The events of a transaction get identifiers if it succeeded. Of a fee bump, that
is told by the result of the transaction in it, and the code of the fee bump is
shown beside it without being compared. So a transaction whose code does not say
success has no identifiers, but for one case: a fee bump whose code says that the
transaction in it failed, while the result of that transaction says success.

## Implementation notes

Codes are told apart by their names, as a reader of the records does.
-/

namespace LedgerExport

variable {options : ExportOptions}

namespace Record

/-- The code says that the transaction succeeded, or the one in the fee bump. -/
def ResultCode.SaysSuccess (code : ResultCode) : Prop :=
  code.name = "TxSuccess" ∨ code.name = "TxFeeBumpInnerSuccess"

/-- The code of a fee bump says that the transaction in it failed, and the result of that
transaction says success. -/
def TransactionResult.Contradictory (result : TransactionResult) : Prop :=
  result.code.name = "TxFeeBumpInnerFailed" ∧
    ∃ inner, result.inner = some inner ∧ inner.code.name = "TxSuccess"

/-- A transaction succeeded if the outcome of its operations is a success. If its code does not
say so, it did not succeed and its events have no identifiers, unless it contradicts itself. -/
structure TransactionRecord.SucceedsByEffect (outcome : Protocol.TransactionOutcome)
    (record : TransactionRecord) : Prop where
  effective : record.successful = true ↔ ∃ results, outcome.effective = .success results
  contradictory : record.result.Contradictory → record.successful = true
  unsuccessful : ¬ record.result.code.SaysSuccess → ¬ record.result.Contradictory →
    record.successful = false ∧
      ∀ operation ∈ record.operations, ∀ event ∈ operation.events, event.id = none

end Record

/-! ## Codes of outcomes -/

namespace Protocol

namespace PlainOutcome

variable {outcome : PlainOutcome}

theorem code_eq_zero_iff : outcome.code.code = 0 ↔ ∃ results, outcome = .success results := by
  cases outcome with
  | success results => exact iff_of_true rfl ⟨results, rfl⟩
  | failed results => exact iff_of_false (by decide : (-1 : Int32) ≠ 0) nofun
  | rejected failure => exact iff_of_false failure.code_transaction_ne_zero nofun

theorem name_code_eq_iff :
    outcome.code.name = "TxSuccess" ↔ ∃ results, outcome = .success results := by
  cases outcome with
  | success results => exact iff_of_true rfl ⟨results, rfl⟩
  | failed results => exact iff_of_false (by decide : "TxFailed" ≠ "TxSuccess") nofun
  | rejected failure => exact iff_of_false (failure.name_code_ne (by decide)) nofun

end PlainOutcome

namespace TransactionResult

variable {operations : List OperationKind} {result : TransactionResult}
  {record : Record.TransactionResult}

/-- The record of a result has the code of the outcome and, of a fee bump, that of the outcome
in it. -/
theorem codes_of_render (h : result.render operations = .ok record) :
    (∃ outcome, result.outcome = .plain outcome ∧ record.code = outcome.code ∧
      record.inner = none) ∨
    ∃ succeeded inner shown, result.outcome = .feeBump succeeded inner ∧
      record.code = result.outcome.code ∧ record.inner = some shown ∧
      shown.code = inner.outcome.code := by
  obtain ⟨fee, outcome⟩ := result
  cases outcome with
  | plain outcome =>
      obtain ⟨results, -, h⟩ := bind_eq_ok_iff.mp h
      cases h
      exact .inl ⟨outcome, rfl, rfl, rfl⟩
  | feeBump succeeded inner =>
      obtain ⟨results, -, h⟩ := bind_eq_ok_iff.mp h
      cases h
      exact .inr ⟨succeeded, inner, _, rfl, rfl, rfl, rfl⟩

theorem isSuccess_render_iff (h : result.render operations = .ok record) :
    record.isSuccess = true ↔ ∃ results, result.outcome.effective = .success results := by
  rw [(effective_render h).2, beq_iff_eq, PlainOutcome.code_eq_zero_iff]

theorem isSuccess_of_contradictory (h : result.render operations = .ok record)
    (hcontradictory : record.Contradictory) : record.isSuccess = true := by
  obtain ⟨-, shown, hshown, hname⟩ := hcontradictory
  rw [isSuccess_render_iff h]
  rcases codes_of_render h with ⟨outcome, -, -, hnone⟩ |
    ⟨succeeded, inner, shown', houtcome, -, hinner, hcode⟩
  · rw [hnone] at hshown
    cases hshown
  · rw [hshown] at hinner
    cases hinner
    rw [hcode, PlainOutcome.name_code_eq_iff] at hname
    rwa [houtcome]

/-- Without a code of success, only a contradiction is taken for a success. -/
theorem contradictory_of_isSuccess (h : result.render operations = .ok record)
    (hcode : ¬ record.code.SaysSuccess) (hsuccess : record.isSuccess = true) :
    record.Contradictory := by
  rw [isSuccess_render_iff h] at hsuccess
  rcases codes_of_render h with ⟨outcome, houtcome, hshown, -⟩ |
    ⟨succeeded, inner, shown, houtcome, hshown, hinner, hinnerCode⟩
  · rw [houtcome] at hsuccess
    refine absurd (.inl ?_) hcode
    rw [hshown]
    exact PlainOutcome.name_code_eq_iff.mpr hsuccess
  · -- A fee bump that says success is excluded, which leaves the one that says failure.
    rw [houtcome] at hsuccess hshown
    cases succeeded with
    | true => exact absurd (.inr (congrArg Record.ResultCode.name hshown)) hcode
    | false =>
        refine ⟨congrArg Record.ResultCode.name hshown, shown, hinner, ?_⟩
        rw [hinnerCode]
        exact PlainOutcome.name_code_eq_iff.mpr hsuccess

end TransactionResult

end Protocol

/-! ## Transactions -/

theorem TransactionClosing.result_render {ledger order : Nat} {closing : TransactionClosing}
    {record : Record.TransactionRecord} (h : closing.render options ledger order = .ok record) :
    closing.result.result.render closing.kinds = .ok record.result ∧
      record.successful = record.result.isSuccess := by
  obtain ⟨outline, houtline, rfl⟩ := exists_outline_of_render h
  exact ⟨(outline_eq_ok houtline).2.1, rfl⟩

/-- Identifiers are given out by the outcome of the operations: a code that does not say success
keeps them back, unless a fee bump contradicts the transaction in it. -/
theorem identifiers_by_effect {ledger order : Nat} {closing : TransactionClosing}
    {record : Record.TransactionRecord} (h : closing.render options ledger order = .ok record) :
    record.SucceedsByEffect closing.result.result.outcome := by
  obtain ⟨hresult, hsuccessful⟩ := TransactionClosing.result_render h
  constructor
  · rw [hsuccessful]
    exact Protocol.TransactionResult.isSuccess_render_iff hresult
  · intro hcontradictory
    rw [hsuccessful]
    exact Protocol.TransactionResult.isSuccess_of_contradictory hresult hcontradictory
  · intro hcode hconsistent
    have hfailed : record.successful = false := by
      rw [hsuccessful, Bool.eq_false_iff]
      exact fun hsuccess => hconsistent
        (Protocol.TransactionResult.contradictory_of_isSuccess hresult hcode hsuccess)
    refine ⟨hfailed, fun operation hoperation event hevent => ?_⟩
    have hmem := Record.TransactionRecord.mem_allEvents.mpr (.inr ⟨operation, hoperation, hevent⟩)
    rcases TransactionClosing.unmarked_or_of_mem_allEvents h hmem with hunmarked | ⟨hsuccess, -⟩
    · exact hunmarked.id
    · rw [hfailed] at hsuccess
      cases hsuccess

/-- A fee bump that says that the transaction in it failed, with an outcome of that transaction.
Its one operation has an event. -/
def TransactionClosing.failedBump (outcome : Protocol.PlainOutcome) : TransactionClosing :=
  let event : Protocol.ContractEvent := ⟨some ⟨.zero 32⟩, .contract, [], .void⟩
  let inner : Protocol.SignedTransaction :=
    ⟨⟨.plain (.zero 32), 1, 1, .none, .none, [⟨none, .inflation⟩], none⟩, []⟩
  ⟨.feeBump ⟨⟨.plain (.zero 32), 2, inner⟩, []⟩,
    ⟨.zero 32, ⟨2, .feeBump false ⟨.zero 32, 1, outcome⟩⟩⟩, [], none,
    .v4 ⟨[], [⟨[], [event]⟩], [], none, [], []⟩⟩

/-- Where both say failure, the transaction did not succeed and its event has no identifier. -/
theorem no_identifier_in_failed_bump :
    let options := ExportOptions.ofNetwork .testnet
    let outcome : Protocol.PlainOutcome := .failed [.inner (.inflation (.success []))]
    let closing := TransactionClosing.failedBump outcome
    let ids (record : Record.TransactionRecord) :=
      record.operations.map fun operation => operation.events.map (·.id)
    ∃ record, closing.render options 7 1 = .ok record ∧
      record.SucceedsByEffect (.feeBump false ⟨.zero 32, 1, outcome⟩) ∧
      record.result.code.name = "TxFeeBumpInnerFailed" ∧ record.successful = false ∧
      ids record = [[none]] := by
  intro options outcome closing ids
  have hshown : (closing.render options 7 1).toOption.map (fun record =>
      (record.result.code.name, record.successful, ids record)) =
        some ("TxFeeBumpInnerFailed", false, [[none]]) := by
    decide +kernel
  obtain ⟨record, hrecord, hshown⟩ := Option.map_eq_some_iff.mp hshown
  rw [toOption_eq_some_iff] at hrecord
  simp only [Prod.mk.injEq] at hshown
  exact ⟨record, hrecord, identifiers_by_effect hrecord, hshown⟩

/-- A fee bump says that the transaction in it failed, and the transaction is shown as one that
succeeded, and its event with an identifier. -/
theorem identifier_in_failed_bump :
    let options := ExportOptions.ofNetwork .testnet
    let outcome : Protocol.PlainOutcome := .success [.inner (.inflation (.success []))]
    ∃ record, (TransactionClosing.failedBump outcome).render options 7 1 = .ok record ∧
      ¬ record.result.code.SaysSuccess ∧ record.successful = true ∧
      ∃ operation ∈ record.operations, ∃ event ∈ operation.events, event.id.isSome := by
  intro options outcome
  have hshown : ((TransactionClosing.failedBump outcome).render options 7 1).toOption.map
      (fun record => (record.result.code.name, record.successful,
        record.operations.map fun operation => operation.events.map (·.id.isSome))) =
        some ("TxFeeBumpInnerFailed", true, [[true]]) := by
    decide +kernel
  obtain ⟨record, hrecord, hshown⟩ := Option.map_eq_some_iff.mp hshown
  rw [toOption_eq_some_iff] at hrecord
  simp only [Prod.mk.injEq] at hshown
  obtain ⟨hname, hsuccessful, hids⟩ := hshown
  obtain ⟨operation, hoperations, hids⟩ := List.map_eq_singleton_iff.mp hids
  obtain ⟨event, hevents, hid⟩ := List.map_eq_singleton_iff.mp hids
  refine ⟨record, hrecord, ?_, hsuccessful, operation, ?_, event, ?_, hid⟩
  · rw [Record.ResultCode.SaysSuccess, hname]
    decide
  · rw [hoperations]
    exact List.mem_singleton_self operation
  · rw [hevents]
    exact List.mem_singleton_self event

end LedgerExport
