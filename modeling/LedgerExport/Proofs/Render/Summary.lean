import LedgerExport.Proofs.Render.Alignment
import Mathlib.Data.List.Basic
import Mathlib.Data.List.Flatten

/-!
# Summaries count exactly

The counts of a summary are words of 32 bits, and nothing compares them with the
lists that they count. But transactions and operations have places, and these are
limited: a ledger that is shown has at most 1048575 transactions with at most 4095
operations each. The product of the limits is just below the number of words, so
every count is the natural number that it stands for.

## Implementation notes

A list is bounded through its last member: that one has a place, so the length is
an order in range. No length is assumed to be below any bound.
-/

namespace LedgerExport

variable {options : ExportOptions}

/-- Lists of limited length put together are as long as all of them at most. -/
theorem length_flatMap_le {α β : Type} {f : α → List β} {bound : Nat} {xs : List α}
    (h : ∀ x ∈ xs, (f x).length ≤ bound) : (xs.flatMap f).length ≤ xs.length * bound := by
  induction xs with
  | nil => exact Nat.zero_le _
  | cons x xs ih =>
      obtain ⟨hx, hxs⟩ := List.forall_mem_cons.mp h
      calc
        ((x :: xs).flatMap f).length = (f x).length + (xs.flatMap f).length := by
          rw [List.flatMap_cons, List.length_append]
        _ ≤ bound + xs.length * bound := Nat.add_le_add hx (ih hxs)
        _ = (x :: xs).length * bound := by
          rw [List.length_cons, Nat.succ_mul, Nat.add_comm]

/-! ## Limits -/

namespace Record.LedgerRecord

/-- The records of all operations. -/
def operations (record : LedgerRecord) : List OperationRecord :=
  record.transactions.flatMap (·.operations)

/-- The records of the operations of successful transactions. -/
def successfulOperations (record : LedgerRecord) : List OperationRecord :=
  (record.transactions.filter (·.successful)).flatMap (·.operations)

/-- Transactions and operations are as many as have places. -/
structure WithinLimits (record : LedgerRecord) : Prop where
  transactions : record.transactions.length ≤ Toid.maxTransaction
  operations : ∀ transaction ∈ record.transactions,
    transaction.operations.length ≤ Toid.maxOperation

/-- The product of the limits. -/
theorem WithinLimits.length_operations_le {record : LedgerRecord} (h : record.WithinLimits) :
    record.operations.length ≤ Toid.maxTransaction * Toid.maxOperation :=
  Nat.le_trans (length_flatMap_le h.operations) (Nat.mul_le_mul_right _ h.transactions)

theorem length_successfulOperations_le (record : LedgerRecord) :
    record.successfulOperations.length ≤ record.operations.length := by
  have hsublist : List.Sublist (record.transactions.filter (·.successful)) record.transactions :=
    List.filter_sublist
  exact (hsublist.flatMap _).length_le

end Record.LedgerRecord

namespace TransactionClosing

variable {ledger order : Nat} {closing : TransactionClosing} {record : Record.TransactionRecord}

/-- A transaction that is shown has a place. -/
theorem ofTransaction_of_render (h : closing.render options ledger order = .ok record) :
    Toid.ofTransaction ledger order = .ok record.toid := by
  obtain ⟨outline, houtline, rfl⟩ := exists_outline_of_render h
  exact (outline_eq_ok houtline).1

theorem order_le_of_render (h : closing.render options ledger order = .ok record) :
    order ≤ Toid.maxTransaction :=
  (Toid.make_eq_ok_iff.mp (ofTransaction_of_render h)).2.1

/-- The order of a transaction as a word is its order. -/
theorem order_of_render (h : closing.render options ledger order = .ok record) :
    record.order.toNat = order := by
  have hle := order_le_of_render h
  obtain ⟨outline, -, rfl⟩ := exists_outline_of_render h
  rw [Toid.maxTransaction] at hle
  exact UInt32.toNat_ofNat_of_lt' (by simp only [UInt32.size]; omega)

theorem length_operations_le (h : closing.render options ledger order = .ok record) :
    record.operations.length ≤ Toid.maxOperation := by
  refine Nat.le_of_not_lt fun hlt => ?_
  have hlast := alignedAt_render h (List.getElem?_eq_getElem hlt)
  have hrange := (Toid.make_eq_ok_iff.mp hlast.toid).2.2.1
  exact absurd hrange (Nat.not_succ_le_self _)

end TransactionClosing

namespace LedgerClosing

variable {closing : LedgerClosing} {record : Record.LedgerRecord}

theorem withinLimits_render (h : closing.render options = .ok record) : record.WithinLimits := by
  constructor
  · refine Nat.le_of_not_lt fun hlt => ?_
    obtain ⟨transaction, -, hlast⟩ :=
      exists_of_getElem?_transactions h (List.getElem?_eq_getElem hlt)
    exact absurd (TransactionClosing.order_le_of_render hlast) (Nat.not_succ_le_self _)
  · intro transaction htransaction
    obtain ⟨applied, order, hrender⟩ := exists_of_mem_transactions h htransaction
    exact TransactionClosing.length_operations_le hrender

end LedgerClosing

/-! ## Counts -/

namespace Record.LedgerRecord

/-- The counts of the summary are those of the lists, and the orders in words are the places. -/
structure Counted (record : LedgerRecord) : Prop where
  transactionCount : record.summary.transactionCount.toNat = record.transactions.length
  successfulTransactionCount : record.summary.successfulTransactionCount.toNat =
    (record.transactions.filter (·.successful)).length
  failedTransactionCount : record.summary.failedTransactionCount.toNat =
    (record.transactions.filter (!·.successful)).length
  operationCount : record.summary.operationCount.toNat = record.operations.length
  successfulOperationCount : record.summary.successfulOperationCount.toNat =
    record.successfulOperations.length
  partition : record.summary.successfulTransactionCount.toNat +
    record.summary.failedTransactionCount.toNat = record.summary.transactionCount.toNat

/-- The orders in words are the places in the lists, from 1 on. -/
structure Ordered (record : LedgerRecord) : Prop where
  transaction (i : Nat) (transaction : TransactionRecord) :
    record.transactions[i]? = some transaction → transaction.order.toNat = i + 1
  operation (transaction : TransactionRecord) (j : Nat) (operation : OperationRecord) :
    transaction ∈ record.transactions → transaction.operations[j]? = some operation →
      operation.order.toNat = j + 1

/-- The counts of the summary are the lengths of the lists as words. -/
structure CountedInWords (record : LedgerRecord) : Prop where
  transactionCount : record.summary.transactionCount = UInt32.ofNat record.transactions.length
  successfulTransactionCount : record.summary.successfulTransactionCount =
    UInt32.ofNat (record.transactions.filter (·.successful)).length
  failedTransactionCount : record.summary.failedTransactionCount =
    record.summary.transactionCount - record.summary.successfulTransactionCount
  operationCount : record.summary.operationCount = UInt32.ofNat record.operations.length
  successfulOperationCount : record.summary.successfulOperationCount =
    UInt32.ofNat record.successfulOperations.length

/-- Lengths that words can hold are counted exactly. -/
theorem CountedInWords.counted {record : LedgerRecord} (h : record.CountedInWords)
    (htransactions : record.transactions.length < UInt32.size)
    (hoperations : record.operations.length < UInt32.size) : record.Counted := by
  have hsplit := List.length_eq_length_filter_add (l := record.transactions) (·.successful)
  have hcount : record.summary.transactionCount.toNat = record.transactions.length := by
    rw [h.transactionCount, UInt32.toNat_ofNat_of_lt' htransactions]
  have hsuccessful : record.summary.successfulTransactionCount.toNat =
      (record.transactions.filter (·.successful)).length := by
    rw [h.successfulTransactionCount, UInt32.toNat_ofNat_of_lt' (by omega)]
  have hle : record.summary.successfulTransactionCount ≤ record.summary.transactionCount := by
    rw [UInt32.le_iff_toNat_le, hcount, hsuccessful]
    exact List.length_filter_le _ _
  have hfailed : record.summary.failedTransactionCount.toNat =
      (record.transactions.filter (!·.successful)).length := by
    rw [h.failedTransactionCount, UInt32.toNat_sub_of_le _ _ hle, hcount, hsuccessful]
    omega
  constructor
  · exact hcount
  · exact hsuccessful
  · exact hfailed
  · rw [h.operationCount, UInt32.toNat_ofNat_of_lt' hoperations]
  · rw [h.successfulOperationCount, UInt32.toNat_ofNat_of_lt'
      (Nat.lt_of_le_of_lt record.length_successfulOperations_le hoperations)]
  · rw [hsuccessful, hfailed, hcount, hsplit]

end Record.LedgerRecord

namespace LedgerClosing

variable {closing : LedgerClosing} {record : Record.LedgerRecord}

theorem countedInWords_render (h : closing.render options = .ok record) :
    record.CountedInWords := by
  obtain ⟨transactions, -, h⟩ := bind_eq_ok_iff.mp h
  obtain ⟨upgrades, -, h⟩ := bind_eq_ok_iff.mp h
  rw [← pure_eq_ok_iff.mp h]
  exact ⟨rfl, rfl, rfl, rfl, rfl⟩

theorem ordered_render (h : closing.render options = .ok record) : record.Ordered := by
  constructor
  · intro i transaction hi
    obtain ⟨applied, -, hrender⟩ := exists_of_getElem?_transactions h hi
    exact TransactionClosing.order_of_render hrender
  · intro transaction j operation htransaction hj
    obtain ⟨applied, order, hrender⟩ := exists_of_mem_transactions h htransaction
    exact (TransactionClosing.alignedAt_render hrender hj).order

end LedgerClosing

/-- The summary of a ledger that is shown counts its transactions and operations exactly, and the
orders beside them are exact as well. There are not more of them than have places, which is why no
word wraps. -/
theorem summary_counts_exactly {closing : LedgerClosing} {record : Record.LedgerRecord}
    (h : closing.render options = .ok record) :
    record.Counted ∧ record.Ordered ∧ record.transactions.length ≤ 1048575 ∧
      (∀ transaction ∈ record.transactions, transaction.operations.length ≤ 4095) ∧
      record.operations.length ≤ 4293914625 ∧ 4293914625 < UInt32.size := by
  have hlimits := LedgerClosing.withinLimits_render h
  have hoperations : record.operations.length ≤ 4293914625 := hlimits.length_operations_le
  have hsize : 4293914625 < UInt32.size := by decide
  have htransactions : record.transactions.length < UInt32.size :=
    Nat.lt_of_le_of_lt hlimits.transactions (by decide)
  have hcounted := (LedgerClosing.countedInWords_render h).counted htransactions
    (Nat.lt_of_le_of_lt hoperations hsize)
  exact ⟨hcounted, LedgerClosing.ordered_render h, hlimits.transactions, hlimits.operations,
    hoperations, hsize⟩

/-- Of two transactions the one with two operations succeeded and the other one failed. -/
theorem summary_of_failed_and_successful :
    let options := ExportOptions.ofNetwork .testnet
    let transaction (operations : List Protocol.Operation) (outcome : Protocol.PlainOutcome) :
        TransactionClosing :=
      ⟨.v1 ⟨⟨.plain (.zero 32), 1, 1, .none, .none, operations, none⟩, []⟩,
        ⟨.zero 32, ⟨0, .plain outcome⟩⟩, [], none, .v0 []⟩
    let inflation : Protocol.Operation := ⟨none, .inflation⟩
    let paid : Protocol.OperationResult := .inner (.inflation (.success []))
    let header : Protocol.HeaderEntry := ⟨.zero 32, ⟨0, .zero 32, ⟨.zero 32, 0, [], none⟩,
      .zero 32, .zero 32, 7, 0, 0, 0, 0, 0, 0, 0, .zero 128, none⟩⟩
    let closing : LedgerClosing := ⟨header, [transaction [inflation] (.failed [paid]),
      transaction [inflation, inflation] (.success [paid, paid])]⟩
    ∃ record, closing.render options = .ok record ∧ record.Counted ∧ record.Ordered ∧
      record.summary.transactionCount = 2 ∧ record.summary.failedTransactionCount = 1 ∧
      record.operations.length = 3 ∧ record.successfulOperations.length = 2 := by
  intro options transaction inflation paid header closing
  have hcounts : (closing.render options).toOption.map (fun record =>
      (record.summary.transactionCount, record.summary.failedTransactionCount,
        record.operations.length, record.successfulOperations.length)) = some (2, 1, 3, 2) := by
    decide +kernel
  obtain ⟨record, hrecord, hcounts⟩ := Option.map_eq_some_iff.mp hcounts
  rw [toOption_eq_some_iff] at hrecord
  simp only [Prod.mk.injEq] at hcounts
  obtain ⟨htransactions, hfailed, hoperations, hsuccessful⟩ := hcounts
  obtain ⟨hcounted, hordered, -⟩ := summary_counts_exactly hrecord
  exact ⟨record, hrecord, hcounted, hordered, htransactions, hfailed, hoperations, hsuccessful⟩

end LedgerExport
