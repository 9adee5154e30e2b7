import LedgerExport.Proofs.Render.Outline

/-!
# Why a transaction cannot be shown

A transaction cannot be shown if it has no place, if its results are not those of
its operations, or if it or its metadata has more operations than there are
places. Nothing else fails.

## Implementation notes

What fails is stated of a closed transaction alone, without regard to the options
and to the steps in which it is shown. The relation `FailsWith` names the error,
and `Unfit` lists the reasons that do not depend on the place.
-/

namespace LedgerExport

variable {options : ExportOptions} {error : Error}

/-! ## Results -/

namespace Protocol

/-- The outcome that speaks of the operations, which is that of the wrapped transaction in a fee
bump. -/
def TransactionOutcome.effective : TransactionOutcome → PlainOutcome
  | .plain o => o
  | .feeBump _ inner => inner.outcome

/-- The results of the operations, if they were carried out. -/
def TransactionOutcome.results? (outcome : TransactionOutcome) : Option (List OperationResult) :=
  outcome.effective.results?

section Results

variable {operations : List OperationKind} {results : List OperationResult}

/-- An operation that was carried out has a result of another kind. -/
structure MismatchAt (operations : List OperationKind) (results : List OperationResult) (j : Nat)
    (operation : OperationKind) (outcome : OperationOutcome) : Prop where
  getElem?_operations : operations[j]? = some operation
  getElem?_results : results[j]? = some (.inner outcome)
  kind_ne : outcome.kind ≠ operation

/-- What is wrong with results beside operations. Kinds are compared only if there are as many of
the ones as of the others. -/
inductive ResultsFail (operations : List OperationKind) (results : List OperationResult) :
    Error → Prop
  | count (h : results.length ≠ operations.length) :
      ResultsFail operations results (.resultCount results.length operations.length)
  | kind {j : Nat} {operation : OperationKind} {outcome : OperationOutcome}
      (hlength : results.length = operations.length)
      (h : MismatchAt operations results j operation outcome)
      (hfirst : ∀ i < j, ∀ operation outcome, ¬ MismatchAt operations results i operation outcome) :
      ResultsFail operations results (.resultMismatch operation outcome.kind)

theorem OperationResult.render_eq_error_iff {operation : OperationKind} {result : OperationResult} :
    result.render operation = .error error ↔
      ∃ outcome, result = .inner outcome ∧ outcome.kind ≠ operation ∧
        error = .resultMismatch operation outcome.kind := by
  cases result with
  | inner outcome =>
      rw [render]
      split
      · next heq =>
          refine iff_of_false nofun ?_
          rintro ⟨_, ⟨⟩, hne, -⟩
          exact hne heq
      · next hne =>
          constructor
          · intro h
            cases h
            exact ⟨outcome, rfl, hne, rfl⟩
          · rintro ⟨_, ⟨⟩, -, rfl⟩
            rfl
  | rejected failure =>
      refine iff_of_false nofun ?_
      rintro ⟨_, h, -⟩
      cases h

theorem renderResults_eq_mapM (operations : List OperationKind) (results : List OperationResult) :
    renderResults operations results =
      (List.zipWith (fun operation result => OperationResult.render operation result)
        operations results).mapM id := by
  induction operations generalizing results with
  | nil => rfl
  | cons operation operations ih =>
      cases results with
      | nil => rfl
      | cons result results =>
          rw [renderResults, List.zipWith_cons_cons, List.mapM_cons, ih]
          rfl

theorem getElem?_zipWith_render_eq_error_iff {j : Nat} :
    (List.zipWith (fun operation result => OperationResult.render operation result)
      operations results)[j]? = some (.error error) ↔
      ∃ operation outcome, MismatchAt operations results j operation outcome ∧
        error = .resultMismatch operation outcome.kind := by
  rw [List.getElem?_zipWith_eq_some]
  simp only [OperationResult.render_eq_error_iff]
  constructor
  · rintro ⟨operation, result, hoperation, hresult, outcome, rfl, hkind, herror⟩
    exact ⟨operation, outcome, ⟨hoperation, hresult, hkind⟩, herror⟩
  · rintro ⟨operation, outcome, h, herror⟩
    exact ⟨operation, _, h.getElem?_operations, h.getElem?_results, outcome, rfl, h.kind_ne, herror⟩

theorem pairResults_eq_error_iff :
    pairResults operations results = .error error ↔ ResultsFail operations results error := by
  have hmismatch {j : Nat} : (∀ fault, (List.zipWith
      (fun operation result => OperationResult.render operation result)
        operations results)[j]? ≠ some (.error fault)) ↔
      ∀ operation outcome, ¬ MismatchAt operations results j operation outcome := by
    simp only [ne_eq, getElem?_zipWith_render_eq_error_iff]
    constructor
    · exact fun h operation outcome hmismatch => h _ ⟨operation, outcome, hmismatch, rfl⟩
    · rintro h fault ⟨operation, outcome, hmismatch, -⟩
      exact h operation outcome hmismatch
  rw [pairResults]
  split
  · next hlength =>
      rw [renderResults_eq_mapM, mapM_eq_error_iff, FirstError]
      simp only [hmismatch, getElem?_zipWith_render_eq_error_iff]
      constructor
      · rintro ⟨j, ⟨operation, outcome, h, rfl⟩, hfirst⟩
        exact .kind hlength h hfirst
      · rintro (h | ⟨-, h, hfirst⟩)
        · exact absurd hlength h
        · exact ⟨_, ⟨_, _, h, rfl⟩, hfirst⟩
  · next hlength =>
      constructor
      · intro h
        cases h
        exact .count hlength
      · rintro (h | ⟨h, -, -⟩)
        · rfl
        · exact absurd h hlength

theorem exists_resultsFail_iff :
    (∃ error, ResultsFail operations results error) ↔
      results.length ≠ operations.length ∨
        ∃ j operation outcome, MismatchAt operations results j operation outcome := by
  simp only [← pairResults_eq_error_iff]
  rw [pairResults]
  split
  · next hlength =>
      simp only [renderResults_eq_mapM, mapM_eq_error_iff, exists_firstError_iff,
        getElem?_zipWith_render_eq_error_iff]
      constructor
      · rintro ⟨j, error, operation, outcome, h, -⟩
        exact .inr ⟨j, operation, outcome, h⟩
      · rintro (h | ⟨j, operation, outcome, h⟩)
        · exact absurd hlength h
        · exact ⟨j, _, operation, outcome, h, rfl⟩
  · next hlength => exact iff_of_true ⟨_, rfl⟩ (.inl hlength)

theorem TransactionResult.render_eq_error_iff {result : TransactionResult} :
    result.render operations = .error error ↔
      ∃ results, result.outcome.results? = some results ∧
        ResultsFail operations results error := by
  have houtcome (outcome : PlainOutcome) : outcome.renderResults? operations = .error error ↔
      ∃ results, outcome.results? = some results ∧ ResultsFail operations results error := by
    rw [PlainOutcome.renderResults?]
    cases outcome.results? with
    | none => simp
    | some results =>
        show (pairResults operations results).map some = _ ↔ _
        rw [map_eq_error_iff, pairResults_eq_error_iff]
        simp
  obtain ⟨fee, outcome⟩ := result
  cases outcome with
  | plain outcome =>
      rw [render]
      exact bind_pure_eq_error_iff.trans (houtcome outcome)
  | feeBump succeeded inner =>
      rw [render]
      exact bind_pure_eq_error_iff.trans (houtcome inner.outcome)

end Results

end Protocol

/-! ## Transactions -/

open Protocol (OperationKind OperationResult OperationOutcome MismatchAt ResultsFail)

theorem operationPlaces_one_eq_error_iff {toid : Toid} {count : Nat} :
    operationPlaces toid 1 count = .error error ↔
      Toid.maxOperation < count ∧ error = .operationRange (Toid.maxOperation + 1) := by
  rw [operationPlaces_eq_error_iff (by decide)]
  have hcount : Toid.maxOperation + 1 < 1 + count ↔ Toid.maxOperation < count := by omega
  rw [hcount]

namespace TransactionClosing

variable {ledger order : Nat} {closing : TransactionClosing}

/-- The kinds of the operations, which are those of the wrapped transaction in a fee bump. -/
def kinds (closing : TransactionClosing) : List OperationKind :=
  closing.envelope.operations.map (·.body.kind)

/-- The results of the operations, if they were carried out. -/
def results? (closing : TransactionClosing) : Option (List OperationResult) :=
  closing.result.result.outcome.results?

/-- What is wrong with the transaction at a place of a ledger. Its place comes before its results,
and those before its operations. -/
inductive FailsWith (ledger order : Nat) (closing : TransactionClosing) : Error → Prop
  | ledger (h : Toid.maxLedger < ledger) : FailsWith ledger order closing (.ledgerRange ledger)
  | order (hledger : ledger ≤ Toid.maxLedger) (h : Toid.maxTransaction < order) :
      FailsWith ledger order closing (.transactionRange order)
  | results {results : List OperationResult} {error : Error} (hledger : ledger ≤ Toid.maxLedger)
      (horder : order ≤ Toid.maxTransaction) (hresults : closing.results? = some results)
      (h : ResultsFail closing.kinds results error) : FailsWith ledger order closing error
  | operations (hledger : ledger ≤ Toid.maxLedger) (horder : order ≤ Toid.maxTransaction)
      (hresults : ∀ results, closing.results? = some results →
        ∀ fault, ¬ ResultsFail closing.kinds results fault)
      (h : Toid.maxOperation < closing.envelope.operations.length ∨
        Toid.maxOperation < closing.applied.entryCount) :
      FailsWith ledger order closing (.operationRange (Toid.maxOperation + 1))

theorem render_result_eq_error_iff :
    closing.result.result.render (closing.envelope.operations.map (·.body.kind)) = .error error ↔
      ∃ results, closing.results? = some results ∧ ResultsFail closing.kinds results error :=
  Protocol.TransactionResult.render_eq_error_iff

theorem render_eq_error_iff :
    closing.render options ledger order = .error error ↔
      closing.FailsWith ledger order error := by
  have hplaced : (∃ toid, Toid.ofTransaction ledger order = .ok toid) ↔
      ledger ≤ Toid.maxLedger ∧ order ≤ Toid.maxTransaction := by
    rw [exists_ok_iff]
    simp only [ne_eq, Toid.ofTransaction_eq_error_iff]
    constructor
    · intro h
      have hledger : ledger ≤ Toid.maxLedger :=
        Nat.le_of_not_lt fun hlt => h _ (.inl ⟨hlt, rfl⟩)
      exact ⟨hledger, Nat.le_of_not_lt fun hlt => h _ (.inr ⟨hledger, hlt, rfl⟩)⟩
    · rintro ⟨hledger, horder⟩ fault (⟨hlt, -⟩ | ⟨-, hlt, -⟩)
      · exact Nat.not_lt.mpr hledger hlt
      · exact Nat.not_lt.mpr horder hlt
  have hpaired : (∃ result, closing.result.result.render
      (closing.envelope.operations.map (·.body.kind)) = .ok result) ↔
      ∀ results, closing.results? = some results →
        ∀ fault, ¬ ResultsFail closing.kinds results fault := by
    rw [exists_ok_iff]
    simp only [ne_eq, render_result_eq_error_iff]
    constructor
    · exact fun h results hresults fault hfail => h fault ⟨results, hresults, hfail⟩
    · rintro h fault ⟨results, hresults, hfail⟩
      exact h results hresults fault hfail
  rw [render_eq_map_outline, map_eq_error_iff, outline_eq_error_iff]
  simp only [render_result_eq_error_iff, operationPlaces_one_eq_error_iff,
    Toid.ofTransaction_eq_error_iff]
  constructor
  · rintro ((⟨hledger, rfl⟩ | ⟨hledger, horder, rfl⟩) | ⟨toid, htoid, h⟩)
    · exact .ledger hledger
    · exact .order hledger horder
    · obtain ⟨hledger, horder⟩ := hplaced.mp ⟨toid, htoid⟩
      rcases h with ⟨results, hresults, hfail⟩ | ⟨result, hresult, h⟩
      · exact .results hledger horder hresults hfail
      · have hfit := hpaired.mp ⟨result, hresult⟩
        rcases h with ⟨hlt, rfl⟩ | ⟨entries, -, hlt, rfl⟩
        · exact .operations hledger horder hfit (.inr hlt)
        · exact .operations hledger horder hfit (.inl hlt)
  · rintro (hledger | ⟨hledger, horder⟩ | ⟨hledger, horder, hresults, hfail⟩ |
      ⟨hledger, horder, hfit, hlt⟩)
    · exact .inl (.inl ⟨hledger, rfl⟩)
    · exact .inl (.inr ⟨hledger, horder, rfl⟩)
    · obtain ⟨toid, htoid⟩ := hplaced.mpr ⟨hledger, horder⟩
      exact .inr ⟨toid, htoid, .inl ⟨_, hresults, hfail⟩⟩
    · obtain ⟨toid, htoid⟩ := hplaced.mpr ⟨hledger, horder⟩
      obtain ⟨result, hresult⟩ := hpaired.mpr hfit
      refine .inr ⟨toid, htoid, .inr ⟨result, hresult, ?_⟩⟩
      by_cases hentries : Toid.maxOperation < closing.applied.entryCount
      · exact .inl ⟨hentries, rfl⟩
      · obtain ⟨entries, hplaces⟩ :
            ∃ entries, operationPlaces toid 1 closing.applied.entryCount = .ok entries := by
          rw [exists_ok_iff]
          intro fault hfault
          exact hentries (operationPlaces_one_eq_error_iff.mp hfault).1
        exact .inr ⟨entries, hplaces, hlt.resolve_right hentries, rfl⟩

/-- Reasons for which a transaction cannot be shown at any place of any ledger. -/
inductive Unfit (closing : TransactionClosing) : Prop
  | count {results : List OperationResult} (hresults : closing.results? = some results)
      (h : results.length ≠ closing.envelope.operations.length)
  | kind {results : List OperationResult} {j : Nat} {operation : OperationKind}
      {outcome : OperationOutcome} (hresults : closing.results? = some results)
      (h : MismatchAt closing.kinds results j operation outcome)
  | operations (h : Toid.maxOperation < closing.envelope.operations.length)
  | entries {parts : Protocol.TransactionMetaV4} (happlied : closing.applied = .v4 parts)
      (h : Toid.maxOperation < parts.operations.length)

theorem unfit_iff : closing.Unfit ↔
    (∃ results, closing.results? = some results ∧
      ∃ fault, ResultsFail closing.kinds results fault) ∨
    Toid.maxOperation < closing.envelope.operations.length ∨
    Toid.maxOperation < closing.applied.entryCount := by
  simp only [Protocol.exists_resultsFail_iff, kinds, List.length_map]
  constructor
  · rintro (⟨hresults, h⟩ | ⟨hresults, h⟩ | h | ⟨happlied, h⟩)
    · exact .inl ⟨_, hresults, .inl h⟩
    · exact .inl ⟨_, hresults, .inr ⟨_, _, _, h⟩⟩
    · exact .inr (.inl h)
    · exact .inr (.inr (by rwa [happlied]))
  · rintro (⟨results, hresults, h | ⟨j, operation, outcome, h⟩⟩ | h | h)
    · exact .count hresults h
    · exact .kind hresults h
    · exact .operations h
    · cases happlied : closing.applied with
      | v4 parts =>
          rw [happlied] at h
          exact .entries happlied h
      | _ =>
          rw [happlied] at h
          exact absurd h (Nat.not_lt_zero _)

theorem exists_failsWith_iff :
    (∃ error, closing.FailsWith ledger order error) ↔
      Toid.maxLedger < ledger ∨ Toid.maxTransaction < order ∨ closing.Unfit := by
  rw [unfit_iff]
  constructor
  · rintro ⟨_, h | ⟨hledger, h⟩ | ⟨hledger, horder, hresults, h⟩ | ⟨hledger, horder, hresults, h⟩⟩
    · exact .inl h
    · exact .inr (.inl h)
    · exact .inr (.inr (.inl ⟨_, hresults, _, h⟩))
    · exact .inr (.inr (.inr h))
  · intro h
    by_cases hledger : Toid.maxLedger < ledger
    · exact ⟨_, .ledger hledger⟩
    rw [Nat.not_lt] at hledger
    by_cases horder : Toid.maxTransaction < order
    · exact ⟨_, .order hledger horder⟩
    rw [Nat.not_lt] at horder
    by_cases hpaired : ∃ results, closing.results? = some results ∧
        ∃ fault, ResultsFail closing.kinds results fault
    · obtain ⟨results, hresults, fault, hfail⟩ := hpaired
      exact ⟨fault, .results hledger horder hresults hfail⟩
    · have hfit (results : List OperationResult) (hresults : closing.results? = some results)
          (fault : Error) : ¬ ResultsFail closing.kinds results fault :=
        fun hfail => hpaired ⟨results, hresults, fault, hfail⟩
      have hoperations := ((h.resolve_left (Nat.not_lt.mpr hledger)).resolve_left
        (Nat.not_lt.mpr horder)).resolve_left hpaired
      exact ⟨_, .operations hledger horder hfit hoperations⟩

end TransactionClosing

end LedgerExport
