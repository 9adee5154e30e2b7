import LedgerExport.Proofs.Render.Failures
import LedgerExport.Proofs.Xdr.Exact

/-!
# Why a ledger cannot be shown

A ledger cannot be shown if one of its transactions cannot, or else if one of its
upgrades is no upgrade. The error is the one of the first transaction that fails,
or of the first upgrade if none does.

## Implementation notes

An upgrade is kept as it was encoded, and its codec is exact. So a byte string is
no upgrade if it is the encoding of none, whatever the reading runs into first.
-/

namespace LedgerExport

variable {options : ExportOptions} {error : Error}

open Protocol (OperationKind OperationResult OperationOutcome MismatchAt)

/-! ## Upgrades -/

namespace Protocol

theorem UpgradeKey.exact_layout : UpgradeKey.layout.Exact :=
  Xdr.exact_fields (Xdr.exact_field (Xdr.exact_fixed 32) (fun _ => rfl) fun _ => rfl)
    (Xdr.exact_fixed 32) (fun _ => rfl) (fun _ _ => rfl) fun _ _ => rfl

namespace LedgerUpgrade

theorem exact_layout : layout.Exact := by
  apply Xdr.exact_union
  · intro upgrade
    cases upgrade <;> simp only <;> decide
  · intro upgrade rest
    cases upgrade with
    | config key =>
        exact Xdr.Decoder.map_read_iff.mpr ⟨key, UpgradeKey.exact_layout.read_write key rest, rfl⟩
    | _ =>
        exact Xdr.Decoder.map_read_iff.mpr ⟨_, Xdr.exact_uint32.read_write _ rest, rfl⟩
  · intro tag bytes upgrade rest h
    -- All arms but that of a setting are words.
    split at h
    case h_6 =>
      obtain ⟨key, hread, rfl⟩ := Xdr.Decoder.map_read_iff.mp h
      exact ⟨rfl, UpgradeKey.exact_layout.write_of_read hread⟩
    case h_8 => cases h
    all_goals
      obtain ⟨n, hread, rfl⟩ := Xdr.Decoder.map_read_iff.mp h
      exact ⟨rfl, Xdr.exact_uint32.write_of_read hread⟩

/-- A byte string of a header is the whole encoding of an upgrade. -/
def Encoded (bytes : Octets) : Prop :=
  ∃ upgrade : LedgerUpgrade, layout.encode upgrade = bytes

/-- What is no upgrade is reported by its first bytes. -/
theorem ofBytes_eq_error_iff {bytes : Octets} :
    ofBytes bytes = .error error ↔
      ¬ Encoded bytes ∧ error = .unknownUpgrade (upgradeDiscriminant bytes) := by
  have hencoded : Encoded bytes ↔ ∃ upgrade, layout.decode bytes = .ok upgrade := by
    simp only [Encoded, exact_layout.decode_eq_ok_iff]
  rw [ofBytes, hencoded]
  cases layout.decode bytes with
  | ok upgrade =>
      refine iff_of_false nofun ?_
      rintro ⟨h, -⟩
      exact h ⟨upgrade, rfl⟩
  | error fault =>
      constructor
      · intro h
        cases h
        exact ⟨nofun, rfl⟩
      · rintro ⟨-, rfl⟩
        rfl

end LedgerUpgrade

end Protocol

/-! ## Ledgers -/

theorem transactionRecords_eq_mapM (options : ExportOptions) (ledger order : Nat)
    (closings : List TransactionClosing) :
    transactionRecords options ledger order closings =
      (closings.mapIdx fun i closing => closing.render options ledger (order + i)).mapM id := by
  induction closings generalizing order with
  | nil => rfl
  | cons closing closings ih =>
      have horder (i : Nat) : order + 1 + i = order + (i + 1) := by omega
      rw [transactionRecords, List.mapIdx_cons, List.mapM_cons, ih]
      simp only [horder]
      rfl

namespace LedgerClosing

variable {closing : LedgerClosing}

/-- The transaction at a place of the ledger fails. -/
def TransactionFails (closing : LedgerClosing) (i : Nat) (error : Error) : Prop :=
  ∃ transaction, closing.transactions[i]? = some transaction ∧
    transaction.FailsWith closing.sequence.toNat (i + 1) error

/-- What is wrong with a ledger: the error of the first transaction that fails, or else of the
first upgrade that is none. -/
inductive FailsWith (closing : LedgerClosing) : Error → Prop
  | transaction {i : Nat} {error : Error} (h : closing.TransactionFails i error)
      (hfirst : ∀ j < i, ∀ fault, ¬ closing.TransactionFails j fault) :
      FailsWith closing error
  | upgrade {i : Nat} {bytes : Octets} (hnone : ∀ j fault, ¬ closing.TransactionFails j fault)
      (hi : closing.header.header.closeValue.upgrades[i]? = some bytes)
      (h : ¬ Protocol.LedgerUpgrade.Encoded bytes)
      (hfirst : ∀ j < i, ∀ earlier, closing.header.header.closeValue.upgrades[j]? = some earlier →
        Protocol.LedgerUpgrade.Encoded earlier) :
      FailsWith closing (.unknownUpgrade (upgradeDiscriminant bytes))

theorem getElem?_transactions_eq_error_iff {i : Nat} :
    (closing.transactions.mapIdx fun i transaction =>
        transaction.render options closing.sequence.toNat (1 + i))[i]? = some (.error error) ↔
      closing.TransactionFails i error := by
  rw [List.getElem?_mapIdx, Option.map_eq_some_iff, Nat.add_comm]
  simp only [TransactionClosing.render_eq_error_iff, TransactionFails]

theorem transactionRecords_eq_error_iff :
    transactionRecords options closing.sequence.toNat 1 closing.transactions = .error error ↔
      ∃ i, closing.TransactionFails i error ∧
        ∀ j < i, ∀ fault, ¬ closing.TransactionFails j fault := by
  rw [transactionRecords_eq_mapM, mapM_eq_error_iff]
  simp only [FirstError, ne_eq, getElem?_transactions_eq_error_iff]

theorem exists_transactionRecords_eq_error_iff (options : ExportOptions)
    (closing : LedgerClosing) :
    (∃ error, transactionRecords options closing.sequence.toNat 1 closing.transactions =
        .error error) ↔
      ∃ i error, closing.TransactionFails i error := by
  simp only [transactionRecords_eq_mapM, mapM_eq_error_iff, exists_firstError_iff,
    getElem?_transactions_eq_error_iff]

end LedgerClosing

namespace Protocol.LedgerUpgrade

variable {upgrades : List Octets}

theorem getElem?_map_ofBytes_eq_error_iff {i : Nat} :
    (upgrades.map ofBytes)[i]? = some (.error error) ↔
      ∃ bytes, upgrades[i]? = some bytes ∧ ¬ Encoded bytes ∧
        error = .unknownUpgrade (upgradeDiscriminant bytes) := by
  rw [List.getElem?_map, Option.map_eq_some_iff]
  simp only [ofBytes_eq_error_iff]

theorem mapM_ofBytes_eq_mapM (upgrades : List Octets) :
    upgrades.mapM ofBytes = (upgrades.map ofBytes).mapM id := by
  rw [List.mapM_map]
  rfl

theorem mapM_ofBytes_eq_error_iff :
    upgrades.mapM ofBytes = .error error ↔
      ∃ (i : Nat) (bytes : Octets), upgrades[i]? = some bytes ∧ ¬ Encoded bytes ∧
        error = .unknownUpgrade (upgradeDiscriminant bytes) ∧
        ∀ j < i, ∀ earlier, upgrades[j]? = some earlier → Encoded earlier := by
  rw [mapM_ofBytes_eq_mapM, mapM_eq_error_iff]
  simp only [FirstError, ne_eq, getElem?_map_ofBytes_eq_error_iff]
  constructor
  · rintro ⟨i, ⟨bytes, hi, hbytes, herror⟩, hfirst⟩
    refine ⟨i, bytes, hi, hbytes, herror, fun j hj earlier hearlier => ?_⟩
    by_contra hnot
    exact hfirst j hj _ ⟨earlier, hearlier, hnot, rfl⟩
  · rintro ⟨i, bytes, hi, hbytes, herror, hfirst⟩
    refine ⟨i, ⟨bytes, hi, hbytes, herror⟩, ?_⟩
    rintro j hj fault ⟨earlier, hearlier, hnot, -⟩
    exact hnot (hfirst j hj earlier hearlier)

theorem exists_mapM_ofBytes_eq_error_iff :
    (∃ error, upgrades.mapM ofBytes = .error error) ↔
      ∃ bytes ∈ upgrades, ¬ Encoded bytes := by
  simp only [mapM_ofBytes_eq_mapM, mapM_eq_error_iff, exists_firstError_iff,
    getElem?_map_ofBytes_eq_error_iff, List.mem_iff_getElem?]
  constructor
  · rintro ⟨i, error, bytes, hi, hbytes, -⟩
    exact ⟨bytes, ⟨i, hi⟩, hbytes⟩
  · rintro ⟨bytes, ⟨i, hi⟩, hbytes⟩
    exact ⟨i, _, bytes, hi, hbytes, rfl⟩

end Protocol.LedgerUpgrade

namespace LedgerClosing

variable {closing : LedgerClosing}

/-- Transactions are shown before upgrades, and nothing else may fail. -/
theorem render_eq_error_iff_parts :
    closing.render options = .error error ↔
      transactionRecords options closing.sequence.toNat 1 closing.transactions = .error error ∨
      (∃ records, transactionRecords options closing.sequence.toNat 1 closing.transactions =
        .ok records) ∧
        closing.header.header.closeValue.upgrades.mapM Protocol.LedgerUpgrade.ofBytes =
          .error error := by
  rw [render, bind_eq_error_iff]
  simp only [bind_pure_eq_error_iff]
  rw [exists_and_right]
  rfl

theorem render_eq_error_iff :
    closing.render options = .error error ↔ closing.FailsWith error := by
  have hnone : (∃ records, transactionRecords options closing.sequence.toNat 1
      closing.transactions = .ok records) ↔ ∀ j fault, ¬ closing.TransactionFails j fault := by
    have hfails := exists_transactionRecords_eq_error_iff options closing
    rw [exists_ok_iff]
    simpa only [not_exists] using not_congr hfails
  rw [render_eq_error_iff_parts, hnone, transactionRecords_eq_error_iff,
    Protocol.LedgerUpgrade.mapM_ofBytes_eq_error_iff]
  constructor
  · rintro (⟨i, h, hfirst⟩ | ⟨hnone, i, bytes, hi, h, rfl, hfirst⟩)
    · exact .transaction h hfirst
    · exact .upgrade hnone hi h hfirst
  · rintro (⟨h, hfirst⟩ | ⟨hnone, hi, h, hfirst⟩)
    · exact .inl ⟨_, h, hfirst⟩
    · exact .inr ⟨hnone, _, _, hi, h, rfl, hfirst⟩

/-! ## The reasons -/

/-- Reasons for which a ledger cannot be shown. -/
inductive Unshowable (closing : LedgerClosing) : Prop
  | ledger (hne : closing.transactions ≠ []) (h : Toid.maxLedger < closing.sequence.toNat)
  | transactions (h : Toid.maxTransaction < closing.transactions.length)
  | transaction {transaction : TransactionClosing} (hmem : transaction ∈ closing.transactions)
      (h : transaction.Unfit)
  | upgrade {bytes : Octets} (hmem : bytes ∈ closing.header.header.closeValue.upgrades)
      (h : ¬ Protocol.LedgerUpgrade.Encoded bytes)

theorem unshowable_of_transactionFails {i : Nat} (h : closing.TransactionFails i error) :
    closing.Unshowable := by
  obtain ⟨transaction, hi, h⟩ := h
  have hmem := List.mem_of_getElem? hi
  rcases TransactionClosing.exists_failsWith_iff.mp ⟨error, h⟩ with hledger | horder | hunfit
  · exact .ledger (List.ne_nil_of_mem hmem) hledger
  · have hlt := (List.getElem?_eq_some_iff.mp hi).1
    exact .transactions (by omega)
  · exact .transaction hmem hunfit

/-- A ledger fails if one of its transactions or upgrades does. -/
theorem exists_error_iff_parts (options : ExportOptions) :
    (∃ error, closing.render options = .error error) ↔
      (∃ i error, closing.TransactionFails i error) ∨
        ∃ bytes ∈ closing.header.header.closeValue.upgrades,
          ¬ Protocol.LedgerUpgrade.Encoded bytes := by
  rw [← exists_transactionRecords_eq_error_iff options closing,
    ← Protocol.LedgerUpgrade.exists_mapM_ofBytes_eq_error_iff]
  simp only [render_eq_error_iff_parts]
  cases transactionRecords options closing.sequence.toNat 1 closing.transactions with
  | error fault => exact iff_of_true ⟨fault, .inl rfl⟩ (.inl ⟨fault, rfl⟩)
  | ok records =>
      constructor
      · rintro ⟨error, h | ⟨-, h⟩⟩
        · cases h
        · exact .inr ⟨error, h⟩
      · rintro (⟨error, h⟩ | ⟨error, h⟩)
        · cases h
        · exact ⟨error, .inr ⟨⟨records, rfl⟩, h⟩⟩

theorem exists_error_iff (options : ExportOptions) :
    (∃ error, closing.render options = .error error) ↔ closing.Unshowable := by
  rw [exists_error_iff_parts]
  constructor
  · rintro (⟨i, error, h⟩ | ⟨bytes, hmem, h⟩)
    · exact unshowable_of_transactionFails h
    · exact .upgrade hmem h
  · -- Each reason fails some transaction at its place, or is that of an upgrade.
    have hfails {i : Nat} {transaction : TransactionClosing}
        (hi : closing.transactions[i]? = some transaction)
        (h : Toid.maxLedger < closing.sequence.toNat ∨ Toid.maxTransaction < i + 1 ∨
          transaction.Unfit) : ∃ i error, closing.TransactionFails i error := by
      obtain ⟨error, h⟩ := TransactionClosing.exists_failsWith_iff.mpr h
      exact ⟨i, error, transaction, hi, h⟩
    rintro (⟨hne, h⟩ | h | ⟨hmem, h⟩ | ⟨hmem, h⟩)
    · have hlength := List.length_pos_iff.mpr hne
      exact .inl (hfails (List.getElem?_eq_getElem hlength) (.inl h))
    · exact .inl (hfails (List.getElem?_eq_getElem h) (.inr (.inl (Nat.lt_succ_self _))))
    · obtain ⟨i, hi⟩ := List.mem_iff_getElem?.mp hmem
      exact .inl (hfails hi (.inr (.inr h)))
    · exact .inr ⟨_, hmem, h⟩

/-- How the error of a ledger is told: as invalid data, or as the kind of a result that is not the
kind of its operation, or as an unknown upgrade. -/
inductive Reported (closing : LedgerClosing) (error : Error) : Prop
  | data (category : error.category = .invalidData) (variant? : error.variant? = none)
  | kind {transaction : TransactionClosing} {results : List OperationResult} {j : Nat}
      {operation : OperationKind} {outcome : OperationOutcome}
      (hmem : transaction ∈ closing.transactions) (hresults : transaction.results? = some results)
      (h : MismatchAt transaction.kinds results j operation outcome)
      (category : error.category = .unknownVariant)
      (variant? : error.variant? =
        some ("OperationResult for " ++ operation.name, (outcome.kind.code : Int)))
  | upgrade {bytes : Octets} (hmem : bytes ∈ closing.header.header.closeValue.upgrades)
      (h : ¬ Protocol.LedgerUpgrade.Encoded bytes)
      (hnone : ∀ j fault, ¬ closing.TransactionFails j fault)
      (category : error.category = .unknownVariant)
      (variant? : error.variant? = some ("LedgerUpgrade", upgradeDiscriminant bytes))

theorem reported_of_failsWith (h : closing.FailsWith error) : closing.Reported error := by
  cases h with
  | transaction h hfirst =>
      obtain ⟨transaction, hi, h⟩ := h
      cases h with
      | ledger h => exact .data rfl rfl
      | order hledger h => exact .data rfl rfl
      | results hledger horder hresults h =>
          cases h with
          | count h => exact .data rfl rfl
          | kind hlength h hfirst => exact .kind (List.mem_of_getElem? hi) hresults h rfl rfl
      | operations hledger horder hresults h => exact .data rfl rfl
  | upgrade hnone hi h hfirst => exact .upgrade (List.mem_of_getElem? hi) h hnone rfl rfl

end LedgerClosing

/-- A ledger cannot be shown for the listed reasons and for no other, whatever the options are. Its
error is the one of the first transaction that fails, or else of the first upgrade that is none. -/
theorem ledger_fails_exactly (options : ExportOptions) (closing : LedgerClosing) :
    ((∃ error, closing.render options = .error error) ↔ closing.Unshowable) ∧
      (∀ error, closing.render options = .error error ↔ closing.FailsWith error) ∧
      ∀ error, closing.render options = .error error → closing.Reported error :=
  ⟨LedgerClosing.exists_error_iff options, fun _ => LedgerClosing.render_eq_error_iff,
    fun _ h => LedgerClosing.reported_of_failsWith (LedgerClosing.render_eq_error_iff.mp h)⟩

/-- A payment stands among the results where an inflation stands among the operations. That the
second transaction has no results and that the upgrade is none comes later. -/
theorem first_mismatch_is_reported :
    let options := ExportOptions.ofNetwork .testnet
    let envelope : Protocol.Envelope :=
      .v1 ⟨⟨.plain (.zero 32), 1, 1, .none, .none, [⟨none, .inflation⟩], none⟩, []⟩
    let transaction (outcome : Protocol.PlainOutcome) : TransactionClosing :=
      ⟨envelope, ⟨.zero 32, ⟨0, .plain outcome⟩⟩, [], none, .v0 []⟩
    let header : Protocol.HeaderEntry := ⟨.zero 32, ⟨0, .zero 32,
      ⟨.zero 32, 0, [[0, 0, 0, 9]], none⟩, .zero 32, .zero 32, 7, 0, 0, 0, 0, 0, 0, 0, .zero 128,
      none⟩⟩
    let closing : LedgerClosing :=
      ⟨header, [transaction (.success [.inner (.payment (.success ()))]),
        transaction (.failed [])]⟩
    let error := Error.resultMismatch .inflation .payment
    closing.render options = .error error ∧ closing.FailsWith error ∧ closing.Unshowable ∧
      error.variant? = some ("OperationResult for Inflation", 1) := by
  intro options envelope transaction header closing error
  have hrender : closing.render options = .error error := rfl
  obtain ⟨hunshowable, hfails, -⟩ := ledger_fails_exactly options closing
  exact ⟨hrender, (hfails error).mp hrender, hunshowable.mp ⟨error, hrender⟩, rfl⟩

end LedgerExport
