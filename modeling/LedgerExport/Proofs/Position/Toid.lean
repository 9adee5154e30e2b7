import LedgerExport.Position.Toid

/-!
# The order of places

A place is made of parts that are in range, and can be taken apart again. Places
are ordered by the ledger, then the transaction, then the operation.
-/

namespace LedgerExport.Toid

theorem make_eq_ok_iff {ledger transaction operation : Nat} {toid : Toid} :
    make ledger transaction operation = .ok toid ↔
      ledger ≤ maxLedger ∧ transaction ≤ maxTransaction ∧ operation ≤ maxOperation ∧
        toid.raw = pack ledger transaction operation := by
  unfold make
  split
  · next h => simp [Nat.not_le.mpr h]
  · next hledger =>
      split
      · next h => simp [Nat.not_le.mpr h]
      · next htransaction =>
          split
          · next h => simp [Nat.not_le.mpr h]
          · next hoperation =>
              constructor
              · intro h
                cases h
                exact ⟨Nat.le_of_not_lt hledger, Nat.le_of_not_lt htransaction,
                  Nat.le_of_not_lt hoperation, rfl⟩
              · rintro ⟨_, _, _, hraw⟩
                obtain ⟨raw, hlt⟩ := toid
                cases hraw
                rfl

theorem make_eq_error_iff {ledger transaction operation : Nat} {error : Error} :
    make ledger transaction operation = .error error ↔
      maxLedger < ledger ∧ error = .ledgerRange ledger ∨
      ledger ≤ maxLedger ∧ maxTransaction < transaction ∧ error = .transactionRange transaction ∨
      ledger ≤ maxLedger ∧ transaction ≤ maxTransaction ∧ maxOperation < operation ∧
        error = .operationRange operation := by
  unfold make
  split
  · next h => simp [h, Nat.not_le.mpr h, eq_comm]
  · next hledger =>
      split
      · next h => simp [h, hledger, Nat.not_le.mpr h, Nat.le_of_not_lt hledger, eq_comm]
      · next htransaction =>
          split
          · next h =>
              simp [h, hledger, htransaction, Nat.le_of_not_lt hledger,
                Nat.le_of_not_lt htransaction, eq_comm]
          · next h => simp [h, hledger, htransaction]

theorem ofTransaction_eq_error_iff {ledger transaction : Nat} {error : Error} :
    ofTransaction ledger transaction = .error error ↔
      maxLedger < ledger ∧ error = .ledgerRange ledger ∨
      ledger ≤ maxLedger ∧ maxTransaction < transaction ∧
        error = .transactionRange transaction := by
  rw [ofTransaction, make_eq_error_iff]
  simp

theorem ledger_le (toid : Toid) : toid.ledger ≤ maxLedger := by
  have hlt := toid.raw_lt
  rw [ledger, maxLedger]
  omega

theorem transaction_le (toid : Toid) : toid.transaction ≤ maxTransaction := by
  rw [transaction, maxTransaction]
  omega

/-- In a transaction that has a place, only the order of an operation may be out of range. -/
theorem atOperation_eq_error_iff {toid : Toid} {operation : Nat} {error : Error} :
    toid.atOperation operation = .error error ↔
      maxOperation < operation ∧ error = .operationRange operation := by
  rw [atOperation, make_eq_error_iff]
  have hledger := toid.ledger_le
  have htransaction := toid.transaction_le
  simp [Nat.not_lt.mpr hledger, Nat.not_lt.mpr htransaction, hledger, htransaction]

section Parts

variable {ledger transaction operation : Nat} {toid : Toid}

theorem ledger_of_make (h : make ledger transaction operation = .ok toid) :
    toid.ledger = ledger := by
  obtain ⟨_, htransaction, hoperation, hraw⟩ := make_eq_ok_iff.mp h
  simp only [maxTransaction, maxOperation] at htransaction hoperation
  rw [Toid.ledger, hraw, pack]
  omega

theorem transaction_of_make (h : make ledger transaction operation = .ok toid) :
    toid.transaction = transaction := by
  obtain ⟨_, htransaction, hoperation, hraw⟩ := make_eq_ok_iff.mp h
  simp only [maxTransaction, maxOperation] at htransaction hoperation
  rw [Toid.transaction, hraw, pack]
  omega

/-- The place of an operation from that of its transaction. -/
theorem atOperation_of_ofTransaction (h : ofTransaction ledger transaction = .ok toid)
    (operation : Nat) : toid.atOperation operation = make ledger transaction operation := by
  rw [atOperation, ledger_of_make h, transaction_of_make h]

end Parts

theorem raw_lt_of_make {ledger transaction operation transaction' operation' : Nat}
    {toid toid' : Toid} (h : make ledger transaction operation = .ok toid)
    (h' : make ledger transaction' operation' = .ok toid')
    (hlt : transaction < transaction' ∨ transaction = transaction' ∧ operation < operation') :
    toid.raw < toid'.raw := by
  obtain ⟨_, _, hoperation, hraw⟩ := make_eq_ok_iff.mp h
  obtain ⟨_, _, _, hraw'⟩ := make_eq_ok_iff.mp h'
  simp only [maxOperation] at hoperation
  rw [hraw, hraw', pack, pack]
  omega

theorem raw_lt_of_ledger_lt {a b : Toid} (h : a.ledger < b.ledger) : a.raw < b.raw := by
  simp only [ledger] at h
  omega

end LedgerExport.Toid
