import LedgerExport.Proofs.Render.Failures

/-!
# Operations and their records

The operations of a transaction are shown twice: in the envelope, and with what
became of them. Both lists are of one length, and the same place of both speaks
of the same operation: the record there has the place of the operation in the
transaction, its result, and if that has an outcome, one of the same kind.

## Implementation notes

Envelopes and results look through a fee bump separately. That both find the
wrapped transaction is seen here, since kinds are compared between the two.
-/

namespace LedgerExport

variable {options : ExportOptions}

/-! ## Kinds of records -/

namespace Record

open Protocol (OperationKind)

/-- The kind of an operation, from its record. -/
def OperationBody.kind : OperationBody → OperationKind
  | .createAccount _ => .createAccount
  | .payment _ => .payment
  | .pathPaymentStrictReceive _ => .pathPaymentStrictReceive
  | .manageSellOffer _ => .manageSellOffer
  | .createPassiveSellOffer _ => .createPassiveSellOffer
  | .setOptions _ => .setOptions
  | .changeTrust _ => .changeTrust
  | .allowTrust _ => .allowTrust
  | .accountMerge _ => .accountMerge
  | .inflation => .inflation
  | .manageData _ => .manageData
  | .bumpSequence _ => .bumpSequence
  | .manageBuyOffer _ => .manageBuyOffer
  | .pathPaymentStrictSend _ => .pathPaymentStrictSend
  | .createClaimableBalance _ => .createClaimableBalance
  | .claimClaimableBalance _ => .claimClaimableBalance
  | .beginSponsoringFutureReserves _ => .beginSponsoringFutureReserves
  | .endSponsoringFutureReserves => .endSponsoringFutureReserves
  | .revokeSponsorship _ => .revokeSponsorship
  | .clawback _ => .clawback
  | .clawbackClaimableBalance _ => .clawbackClaimableBalance
  | .setTrustLineFlags _ => .setTrustLineFlags
  | .liquidityPoolDeposit _ => .liquidityPoolDeposit
  | .liquidityPoolWithdraw _ => .liquidityPoolWithdraw
  | .invokeHostFunction _ => .invokeHostFunction
  | .extendFootprintTtl _ => .extendFootprintTtl
  | .restoreFootprint => .restoreFootprint

/-- The kind of the operation that had an outcome, from the record of the outcome. -/
def OperationOutcome.kind : OperationOutcome → OperationKind
  | .createAccount _ => .createAccount
  | .payment _ => .payment
  | .pathPaymentStrictReceive _ => .pathPaymentStrictReceive
  | .manageSellOffer _ => .manageSellOffer
  | .createPassiveSellOffer _ => .createPassiveSellOffer
  | .setOptions _ => .setOptions
  | .changeTrust _ => .changeTrust
  | .allowTrust _ => .allowTrust
  | .accountMerge _ => .accountMerge
  | .inflation _ => .inflation
  | .manageData _ => .manageData
  | .bumpSequence _ => .bumpSequence
  | .manageBuyOffer _ => .manageBuyOffer
  | .pathPaymentStrictSend _ => .pathPaymentStrictSend
  | .createClaimableBalance _ => .createClaimableBalance
  | .claimClaimableBalance _ => .claimClaimableBalance
  | .beginSponsoringFutureReserves _ => .beginSponsoringFutureReserves
  | .endSponsoringFutureReserves _ => .endSponsoringFutureReserves
  | .revokeSponsorship _ => .revokeSponsorship
  | .clawback _ => .clawback
  | .clawbackClaimableBalance _ => .clawbackClaimableBalance
  | .setTrustLineFlags _ => .setTrustLineFlags
  | .liquidityPoolDeposit _ => .liquidityPoolDeposit
  | .liquidityPoolWithdraw _ => .liquidityPoolWithdraw
  | .invokeHostFunction _ => .invokeHostFunction
  | .extendFootprintTtl _ => .extendFootprintTtl
  | .restoreFootprint _ => .restoreFootprint

end Record

namespace Protocol

theorem OperationBody.kind_render (body : OperationBody) : body.render.kind = body.kind := by
  cases body <;> rfl

theorem OperationOutcome.kind_render (outcome : OperationOutcome) :
    outcome.render.kind = outcome.kind := by
  cases outcome <;> rfl

/-- The record of an envelope has the records of its operations, in every kind of envelope. -/
theorem Envelope.operations_render (envelope : Envelope) :
    envelope.render.operations = envelope.operations.map (·.render) := by
  cases envelope with
  | v0 e => rfl
  | v1 e => rfl
  | feeBump e => rfl

/-! ## Results -/

section Results

variable {operations : List OperationKind} {results : List OperationResult}
  {records : List Record.OperationResult}

/-- The record of an outcome stands beside an operation of its kind. -/
theorem OperationResult.kind_of_render {operation : OperationKind} {result : OperationResult}
    {record : Record.OperationResult} (h : result.render operation = .ok record)
    {body : Record.OperationOutcome} (hbody : record.body = some body) : body.kind = operation := by
  cases result with
  | inner outcome =>
      rw [render] at h
      split at h
      · next hkind =>
          cases h
          cases hbody
          rw [OperationOutcome.kind_render, hkind]
      · cases h
  | rejected failure =>
      cases h
      cases hbody

theorem pairResults_eq_ok_iff :
    pairResults operations results = .ok records ↔
      results.length = operations.length ∧
        List.zipWith (fun operation result => OperationResult.render operation result)
          operations results = records.map .ok := by
  rw [pairResults]
  split
  · next hlength => rw [renderResults_eq_mapM, mapM_eq_ok_iff, and_iff_right hlength]
  · next hlength =>
      constructor
      · intro h
        cases h
      · exact fun h => absurd h.1 hlength

theorem length_of_pairResults (h : pairResults operations results = .ok records) :
    records.length = operations.length := by
  obtain ⟨hlength, hrecords⟩ := pairResults_eq_ok_iff.mp h
  have hcount := congrArg List.length hrecords
  rw [List.length_zipWith, List.length_map, hlength, Nat.min_self] at hcount
  exact hcount.symm

theorem kind_of_pairResults (h : pairResults operations results = .ok records) {j : Nat}
    {record : Record.OperationResult} (hj : records[j]? = some record)
    {body : Record.OperationOutcome} (hbody : record.body = some body) :
    operations[j]? = some body.kind := by
  obtain ⟨-, hrecords⟩ := pairResults_eq_ok_iff.mp h
  have hstep : (records.map Except.ok)[j]? = some (.ok record : Except Error _) := by
    rw [List.getElem?_map, hj]
    rfl
  rw [← hrecords, List.getElem?_zipWith_eq_some] at hstep
  obtain ⟨operation, result, hoperation, -, hrender⟩ := hstep
  rw [hoperation, OperationResult.kind_of_render hrender hbody]

/-- The record of a transaction has the results of its operations, of the wrapped ones in a fee
bump, and succeeds as they do. -/
theorem TransactionResult.effective_render {result : TransactionResult}
    {record : Record.TransactionResult} (h : result.render operations = .ok record) :
    result.outcome.effective.renderResults? operations = .ok record.effectiveResults ∧
      record.isSuccess = (result.outcome.effective.code.code == 0) := by
  obtain ⟨fee, outcome⟩ := result
  cases outcome with
  | plain outcome =>
      obtain ⟨records, hrecords, h⟩ := bind_eq_ok_iff.mp h
      cases h
      exact ⟨hrecords, rfl⟩
  | feeBump succeeded inner =>
      obtain ⟨records, hrecords, h⟩ := bind_eq_ok_iff.mp h
      cases h
      exact ⟨hrecords, rfl⟩

theorem PlainOutcome.renderResults?_eq_ok_iff {outcome : PlainOutcome}
    {records? : Option (List Record.OperationResult)} :
    outcome.renderResults? operations = .ok records? ↔
      outcome.results? = none ∧ records? = none ∨
      ∃ results records, outcome.results? = some results ∧ records? = some records ∧
        pairResults operations results = .ok records := by
  rw [renderResults?]
  cases outcome.results? with
  | none => simp [eq_comm]
  | some results =>
      show (pairResults operations results).map some = _ ↔ _
      rw [map_eq_ok_iff]
      constructor
      · rintro ⟨records, h, rfl⟩
        exact .inr ⟨results, records, rfl, rfl, h⟩
      · rintro (⟨h, -⟩ | ⟨_, records, hresults, rfl, h⟩)
        · cases h
        · cases hresults
          exact ⟨records, h, rfl⟩

/-- No reason to reject a transaction has the code of a success. -/
theorem Failure.code_transaction_ne_zero (failure : Failure .transaction) :
    failure.code.code ≠ 0 := by
  obtain ⟨index⟩ := failure
  revert index
  decide

/-- A transaction succeeds only if it was carried out. -/
theorem PlainOutcome.exists_results_of_code {outcome : PlainOutcome}
    (h : outcome.code.code = 0) : ∃ results, outcome.results? = some results := by
  cases outcome with
  | success results => exact ⟨results, rfl⟩
  | failed results => exact ⟨results, rfl⟩
  | rejected failure => exact absurd h failure.code_transaction_ne_zero

end Results

end Protocol

/-! ## Alignment -/

namespace Record

/-- The record of an operation at a place of a transaction, beside the operations and the results
of the transaction. -/
structure OperationRecord.AlignedAt (ledger transaction j : Nat) (operations : List Operation)
    (results : Option (List OperationResult)) (record : OperationRecord) : Prop where
  order : record.order.toNat = j + 1
  toid : Toid.make ledger transaction (j + 1) = .ok record.toid
  result : record.result = results.bind (·[j]?)
  kind (result : OperationResult) (body : OperationOutcome) : record.result = some result →
    result.body = some body → ∃ operation, operations[j]? = some operation ∧
      operation.body.kind = body.kind

/-- The records of the operations of a transaction stand beside its operations. -/
structure TransactionRecord.Aligned (ledger order : Nat) (closing : TransactionClosing)
    (record : TransactionRecord) : Prop where
  envelope : record.envelope.operations = closing.envelope.operations.map (·.render)
  length : record.operations.length = record.envelope.operations.length
  operation (j : Nat) (operation : OperationRecord) : record.operations[j]? = some operation →
    operation.AlignedAt ledger order j record.envelope.operations record.result.effectiveResults
  successful : record.successful = true →
    ∀ operation ∈ record.operations, operation.result.isSome
  rejected (failure : Protocol.Failure .transaction) :
    closing.result.result.outcome.effective = .rejected failure →
      ∀ operation ∈ record.operations, operation.result = none

end Record

namespace TransactionClosing

variable {ledger order : Nat} {closing : TransactionClosing} {record : Record.TransactionRecord}

theorem length_operations_render (h : closing.render options ledger order = .ok record) :
    record.operations.length = closing.envelope.operations.length := by
  obtain ⟨outline, houtline, rfl⟩ := exists_outline_of_render h
  obtain ⟨-, -, hplaces⟩ := outline_eq_ok houtline
  rw [fill, List.length_mapIdx, (operationPlaces_eq_ok hplaces).1]

/-- Either the operations were not carried out and the record has no results, or it has one for
each of them. -/
theorem effectiveResults_render (h : closing.render options ledger order = .ok record) :
    closing.results? = none ∧ record.result.effectiveResults = none ∨
      ∃ results records, closing.results? = some results ∧
        record.result.effectiveResults = some records ∧
        Protocol.pairResults closing.kinds results = .ok records := by
  obtain ⟨outline, houtline, rfl⟩ := exists_outline_of_render h
  obtain ⟨-, hresult, -⟩ := outline_eq_ok houtline
  obtain ⟨hrecords, -⟩ := Protocol.TransactionResult.effective_render hresult
  exact Protocol.PlainOutcome.renderResults?_eq_ok_iff.mp hrecords

theorem exists_results_of_successful (h : closing.render options ledger order = .ok record)
    (hsuccessful : record.successful = true) : ∃ results, closing.results? = some results := by
  obtain ⟨outline, houtline, rfl⟩ := exists_outline_of_render h
  obtain ⟨-, hresult, -⟩ := outline_eq_ok houtline
  obtain ⟨-, hcode⟩ := Protocol.TransactionResult.effective_render hresult
  exact Protocol.PlainOutcome.exists_results_of_code (eq_of_beq (hcode.symm.trans hsuccessful))

theorem envelope_render (h : closing.render options ledger order = .ok record) :
    record.envelope.operations = closing.envelope.operations.map (·.render) := by
  obtain ⟨outline, -, rfl⟩ := exists_outline_of_render h
  exact closing.envelope.operations_render

/-- The record of an operation is worked out from its place and the results. -/
theorem alignedAt_render (h : closing.render options ledger order = .ok record) {j : Nat}
    {operation : Record.OperationRecord} (hj : record.operations[j]? = some operation) :
    operation.AlignedAt ledger order j record.envelope.operations
      record.result.effectiveResults := by
  have henvelope := envelope_render h
  have hresults := effectiveResults_render h
  obtain ⟨outline, houtline, rfl⟩ := exists_outline_of_render h
  obtain ⟨htoid, -, hplaces⟩ := outline_eq_ok houtline
  rw [fill, List.getElem?_mapIdx, Option.map_eq_some_iff] at hj
  obtain ⟨place, hplace, rfl⟩ := hj
  have hmake : Toid.make ledger order (1 + j) = .ok place := by
    rw [← Toid.atOperation_of_ofTransaction htoid]
    exact (operationPlaces_eq_ok hplaces).2 j place hplace
  have hrange : 1 + j ≤ Toid.maxOperation := (Toid.make_eq_ok_iff.mp hmake).2.2.1
  have hresult : (closing.recordAt options outline.result j place).result =
      outline.result.effectiveResults.bind (·[j]?) := by
    rw [recordAt]
    cases outline.result.effectiveResults with
    | none => rfl
    | some records => rfl
  constructor
  · show (UInt32.ofNat (1 + j)).toNat = j + 1
    rw [Toid.maxOperation] at hrange
    rw [UInt32.toNat_ofNat_of_lt' (by simp only [UInt32.size]; omega), Nat.add_comm]
  · rwa [Nat.add_comm]
  · exact hresult
  · intro result body hfound hbody
    rw [hresult] at hfound
    rcases hresults with ⟨-, hnone⟩ | ⟨results, records, -, hsome, hpaired⟩
    · rw [fill] at hnone
      rw [hnone] at hfound
      cases hfound
    · rw [fill] at hsome
      rw [hsome] at hfound
      have hkind := Protocol.kind_of_pairResults hpaired hfound hbody
      rw [kinds, List.getElem?_map, Option.map_eq_some_iff] at hkind
      obtain ⟨operation, hoperation, hkind⟩ := hkind
      refine ⟨operation.render, ?_, ?_⟩
      · rw [henvelope, List.getElem?_map, hoperation]
        rfl
      · rw [← hkind]
        exact operation.body.kind_render

end TransactionClosing

/-- The operations of a transaction are shown in line with their records: as many, at the same
places, and with the results of their kinds. -/
theorem operations_aligned {ledger order : Nat} {closing : TransactionClosing}
    {record : Record.TransactionRecord} (h : closing.render options ledger order = .ok record) :
    record.Aligned ledger order closing := by
  have henvelope := TransactionClosing.envelope_render h
  have hlength := TransactionClosing.length_operations_render h
  have hresults := TransactionClosing.effectiveResults_render h
  constructor
  · exact henvelope
  · rw [hlength, henvelope, List.length_map]
  · exact fun j operation hj => TransactionClosing.alignedAt_render h hj
  · intro hsuccessful operation hoperation
    obtain ⟨j, hj⟩ := List.mem_iff_getElem?.mp hoperation
    obtain ⟨results, hcarried⟩ := TransactionClosing.exists_results_of_successful h hsuccessful
    rw [(TransactionClosing.alignedAt_render h hj).result]
    rcases hresults with ⟨hnone, -⟩ | ⟨_, records, -, hsome, hpaired⟩
    · rw [hcarried] at hnone
      cases hnone
    · have hj := (List.getElem?_eq_some_iff.mp hj).1
      have hcount := Protocol.length_of_pairResults hpaired
      rw [TransactionClosing.kinds, List.length_map, ← hlength] at hcount
      rw [hsome, Option.bind_some, List.getElem?_eq_getElem (hcount.symm ▸ hj)]
      rfl
  · intro failure hrejected operation hoperation
    obtain ⟨j, hj⟩ := List.mem_iff_getElem?.mp hoperation
    rw [(TransactionClosing.alignedAt_render h hj).result]
    rcases hresults with ⟨-, hnone⟩ | ⟨results, _, hcarried, -⟩
    · rw [hnone]
      rfl
    · rw [TransactionClosing.results?, Protocol.TransactionOutcome.results?, hrejected] at hcarried
      cases hcarried

/-- A fee bump of two operations: the first was carried out, and the second was not. -/
theorem fee_bump_aligned :
    let options := ExportOptions.ofNetwork .testnet
    let inner : Protocol.SignedTransaction := ⟨⟨.plain (.zero 32), 1, 1, .none, .none,
      [⟨none, .inflation⟩, ⟨none, .endSponsoringFutureReserves⟩], none⟩, []⟩
    let outcome : Protocol.PlainOutcome :=
      .failed [.inner (.inflation (.success [])), .rejected ⟨⟨0, by decide⟩⟩]
    let closing : TransactionClosing :=
      ⟨.feeBump ⟨⟨.plain (.zero 32), 2, inner⟩, []⟩,
        ⟨.zero 32, ⟨2, .feeBump false ⟨.zero 32, 1, outcome⟩⟩⟩, [], none, .v0 []⟩
    let shown (record : Record.OperationRecord) := (record.order,
      record.result.map fun result => (result.code.name, result.body.map (·.kind)))
    ∃ record, closing.render options 7 1 = .ok record ∧ record.Aligned 7 1 closing ∧
      record.operations.map shown =
        [(1, some ("OpInner", some .inflation)), (2, some ("OpBadAuth", none))] := by
  intro options inner outcome closing shown
  have hshown : (closing.render options 7 1).toOption.map (·.operations.map shown) =
      some [(1, some ("OpInner", some .inflation)), (2, some ("OpBadAuth", none))] := by
    decide +kernel
  obtain ⟨record, hrecord, hshown⟩ := Option.map_eq_some_iff.mp hshown
  rw [toOption_eq_some_iff] at hrecord
  exact ⟨record, hrecord, operations_aligned hrecord, hshown⟩

end LedgerExport
