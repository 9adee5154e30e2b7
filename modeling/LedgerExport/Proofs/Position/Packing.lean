import LedgerExport.Proofs.Position.Toid
import Mathlib.Logic.Function.Basic

/-!
# Places packed into numbers

The parts of a place stand in bits of their own of one number, the ledger in front.
So packing is an order isomorphism: parts that are in range, in lexicographic
order, are the numbers of 63 bits in their own order. The places of the operations
of a transaction then lie behind the transaction and ahead of all that comes later.

## Implementation notes

A place keeps its number as a natural one below `2 ^ 63`, and `number` is that
number as a signed word, which is how it is read and written. The parts are worked
out by division, which agrees with shifts and masks on that word.
-/

namespace LedgerExport.Toid

/-! ## Bits -/

/-- The parts of a place stand in bits of their own. -/
theorem pack_eq_or {ledger transaction operation : Nat}
    (htransaction : transaction ≤ maxTransaction) (hoperation : operation ≤ maxOperation) :
    pack ledger transaction operation = ledger <<< 32 ||| transaction <<< 12 ||| operation := by
  rw [maxTransaction] at htransaction
  rw [maxOperation] at hoperation
  have hlow : transaction <<< 12 ||| operation = transaction * 0x1000 + operation := by
    rw [← Nat.shiftLeft_add_eq_or_of_lt (by omega), Nat.shiftLeft_eq]
  rw [Nat.or_assoc, hlow, ← Nat.shiftLeft_add_eq_or_of_lt (by omega), Nat.shiftLeft_eq, pack]
  omega

theorem operation_le (toid : Toid) : toid.operation ≤ maxOperation := by
  rw [operation, maxOperation]
  omega

theorem operation_of_make {ledger transaction operation : Nat} {toid : Toid}
    (h : make ledger transaction operation = .ok toid) : toid.operation = operation := by
  obtain ⟨-, -, hoperation, hraw⟩ := make_eq_ok_iff.mp h
  rw [maxOperation] at hoperation
  rw [Toid.operation, hraw, pack]
  omega

/-! ## Parts -/

/-- The parts of a place, all of them in range. -/
@[ext] structure Parts where
  ledger : Nat
  transaction : Nat
  operation : Nat
  ledger_le : ledger ≤ maxLedger
  transaction_le : transaction ≤ maxTransaction
  operation_le : operation ≤ maxOperation

/-- The ledger decides, then the transaction, then the operation. -/
instance : LT Parts :=
  ⟨fun a b => a.ledger < b.ledger ∨ a.ledger = b.ledger ∧
    (a.transaction < b.transaction ∨ a.transaction = b.transaction ∧ a.operation < b.operation)⟩

/-- The parts that a place is made of. -/
def parts (toid : Toid) : Parts :=
  ⟨toid.ledger, toid.transaction, toid.operation, toid.ledger_le, toid.transaction_le,
    toid.operation_le⟩

/-- A place is packed from its parts. -/
theorem raw_eq_pack (toid : Toid) :
    toid.raw = pack toid.ledger toid.transaction toid.operation := by
  rw [pack, ledger, transaction, operation]
  omega

theorem make_parts (toid : Toid) :
    make toid.ledger toid.transaction toid.operation = .ok toid :=
  make_eq_ok_iff.mpr ⟨toid.ledger_le, toid.transaction_le, toid.operation_le, toid.raw_eq_pack⟩

/-- Places are ordered as their parts are. -/
theorem parts_lt_parts_iff {a b : Toid} : a.parts < b.parts ↔ a < b := by
  show (a.ledger < b.ledger ∨ a.ledger = b.ledger ∧
    (a.transaction < b.transaction ∨ a.transaction = b.transaction ∧ a.operation < b.operation)) ↔
      a.raw < b.raw
  simp only [ledger, transaction, operation]
  omega

namespace Parts

theorem pack_lt (parts : Parts) :
    pack parts.ledger parts.transaction parts.operation < 0x8000000000000000 := by
  obtain ⟨ledger, transaction, operation, hledger, htransaction, hoperation⟩ := parts
  simp only [maxLedger, maxTransaction, maxOperation] at hledger htransaction hoperation
  simp only [pack]
  omega

/-- The place that some parts make. -/
def place (parts : Parts) : Toid :=
  ⟨pack parts.ledger parts.transaction parts.operation, parts.pack_lt⟩

theorem make_place (parts : Parts) :
    make parts.ledger parts.transaction parts.operation = .ok parts.place :=
  make_eq_ok_iff.mpr ⟨parts.ledger_le, parts.transaction_le, parts.operation_le, rfl⟩

@[simp] theorem parts_place (parts : Parts) : parts.place.parts = parts :=
  Parts.ext (ledger_of_make parts.make_place) (transaction_of_make parts.make_place)
    (operation_of_make parts.make_place)

end Parts

@[simp] theorem place_parts (toid : Toid) : toid.parts.place = toid :=
  Except.ok.inj (toid.parts.make_place.symm.trans toid.make_parts)

/-- Parts have a place exactly if they are in range. -/
theorem exists_make_iff {ledger transaction operation : Nat} :
    (∃ toid, make ledger transaction operation = .ok toid) ↔
      ledger ≤ maxLedger ∧ transaction ≤ maxTransaction ∧ operation ≤ maxOperation := by
  constructor
  · rintro ⟨toid, h⟩
    obtain ⟨hledger, htransaction, hoperation, -⟩ := make_eq_ok_iff.mp h
    exact ⟨hledger, htransaction, hoperation⟩
  · rintro ⟨hledger, htransaction, hoperation⟩
    exact ⟨_, Parts.make_place ⟨_, _, _, hledger, htransaction, hoperation⟩⟩

/-! ## Signed words -/

/-- The number of a place as a signed word. -/
def number (toid : Toid) : Int64 :=
  Int64.ofNat toid.raw

@[simp] theorem toInt_number (toid : Toid) : toid.number.toInt = toid.raw := by
  have hlt := toid.raw_lt
  rw [number, Int64.toInt_ofNat_of_lt (by omega)]

theorem number_lt_number_iff {a b : Toid} : a.number < b.number ↔ a < b := by
  rw [Int64.lt_iff_toInt_lt, toInt_number, toInt_number, Int.ofNat_lt]
  rfl

theorem zero_le_number (toid : Toid) : 0 ≤ toid.number := by
  rw [Int64.le_iff_toInt_le, toInt_number]
  exact Int.natCast_nonneg toid.raw

theorem toNat_toUInt64_number (toid : Toid) : toid.number.toUInt64.toNat = toid.raw := by
  have hlt := toid.raw_lt
  show (Int64.ofNat toid.raw).toBitVec.toNat = toid.raw
  rw [Int64.toBitVec_ofNat', BitVec.toNat_ofNat, Nat.mod_eq_of_lt (by omega)]

/-- No sign comes in when the number of a place is shifted down. -/
theorem toNat_toUInt64_shiftRight_number (toid : Toid) {bits : Int64} {n : Nat}
    (hbits : bits.toBitVec.smod 64 = BitVec.ofNat 64 n) (hn : n < 64) :
    (toid.number >>> bits).toUInt64.toNat = toid.raw >>> n := by
  have hword : toid.number.toBitVec.toNat = toid.raw := toid.toNat_toUInt64_number
  have hsign : toid.number.toBitVec.msb = false := by
    have hlt := toid.raw_lt
    rw [BitVec.msb_eq_false_iff_two_mul_lt, hword]
    omega
  have hamount : (BitVec.ofNat 64 n).toNat = n := by
    rw [BitVec.toNat_ofNat, Nat.mod_eq_of_lt (by omega)]
  show (toid.number >>> bits).toBitVec.toNat = toid.raw >>> n
  rw [Int64.toBitVec_shiftRight, hbits, BitVec.sshiftRight',
    BitVec.toNat_sshiftRight_of_msb_false hsign, hword, hamount]

/-- The sequence of the ledger is the upper half of the word. -/
theorem toNat_upper_number (toid : Toid) :
    (toid.number >>> 32).toUInt64.toUInt32.toNat = toid.ledger := by
  have hlt := toid.raw_lt
  rw [UInt64.toNat_toUInt32, toid.toNat_toUInt64_shiftRight_number (n := 32) rfl (by decide),
    Nat.shiftRight_eq_div_pow, ledger]
  omega

/-- The place of the transaction is cut out of the lower half of the word, shifted down. -/
theorem toNat_middle_number (toid : Toid) :
    ((toid.number >>> 12).toUInt64.toUInt32 &&& .ofNat maxTransaction).toNat =
      toid.transaction := by
  have hmask : (UInt32.ofNat maxTransaction).toNat = 2 ^ 20 - 1 := rfl
  rw [UInt32.toNat_and, UInt64.toNat_toUInt32,
    toid.toNat_toUInt64_shiftRight_number (n := 12) rfl (by decide), hmask,
    Nat.and_two_pow_sub_one_eq_mod, Nat.shiftRight_eq_div_pow, transaction]
  omega

/-- The place of the operation is cut out of the lower half of the word. -/
theorem toNat_lower_number (toid : Toid) :
    (toid.number.toUInt64.toUInt32 &&& .ofNat maxOperation).toNat = toid.operation := by
  have hmask : (UInt32.ofNat maxOperation).toNat = 2 ^ 12 - 1 := rfl
  rw [UInt32.toNat_and, UInt64.toNat_toUInt32, toNat_toUInt64_number, hmask,
    Nat.and_two_pow_sub_one_eq_mod, operation]
  omega

/-- A signed word is taken for the place that has it as its number. -/
theorem ofRaw_eq_ok_iff {raw : Int64} {toid : Toid} : ofRaw raw = .ok toid ↔ raw = toid.number := by
  rw [← Int64.toInt_inj, toInt_number, ofRaw]
  obtain ⟨n, hn⟩ := toid
  split
  · simp only [Except.ok.injEq, mk.injEq]
    omega
  · simp only [reduceCtorEq, false_iff]
    omega

/-- A signed word that is not negative is the number of a place. -/
theorem exists_ofRaw_of_nonneg {raw : Int64} (h : 0 ≤ raw) : ∃ toid, ofRaw raw = .ok toid := by
  rw [Int64.le_iff_toInt_le] at h
  exact ⟨_, dif_pos h⟩

/-- The signed word that some parts are packed into. -/
def Parts.number (parts : Parts) : { raw : Int64 // 0 ≤ raw } :=
  ⟨parts.place.number, parts.place.zero_le_number⟩

theorem Parts.number_injective : Function.Injective Parts.number := by
  intro a b h
  have hword : a.place.number = b.place.number := congrArg Subtype.val h
  have hplace : a.place = b.place :=
    Except.ok.inj ((ofRaw_eq_ok_iff.mpr hword).symm.trans (ofRaw_eq_ok_iff.mpr rfl)).symm
  rw [← a.parts_place, hplace, b.parts_place]

theorem Parts.number_surjective : Function.Surjective Parts.number := by
  rintro ⟨raw, hraw⟩
  obtain ⟨toid, htoid⟩ := exists_ofRaw_of_nonneg hraw
  refine ⟨toid.parts, Subtype.ext ?_⟩
  show toid.parts.place.number = raw
  rw [place_parts, ofRaw_eq_ok_iff.mp htoid]

theorem Parts.number_lt_number_iff {a b : Parts} :
    a.number.val < b.number.val ↔ a < b := by
  show a.place.number < b.place.number ↔ a < b
  rw [Toid.number_lt_number_iff, ← parts_lt_parts_iff, parts_place, parts_place]

/-! ## Operations of a transaction -/

theorem exists_atOperation_iff {toid : Toid} {operation : Nat} :
    (∃ place, toid.atOperation operation = .ok place) ↔ operation ≤ maxOperation := by
  apply exists_make_iff.trans
  rw [and_iff_right toid.ledger_le, and_iff_right toid.transaction_le]

/-- Another operation of a transaction differs in the order of the operation alone. -/
theorem parts_of_atOperation {toid place : Toid} {operation : Nat}
    (h : toid.atOperation operation = .ok place) :
    place.ledger = toid.ledger ∧ place.transaction = toid.transaction ∧
      place.operation = operation :=
  ⟨ledger_of_make h, transaction_of_make h, operation_of_make h⟩

/-- A place lies behind a transaction and ahead of all transactions and ledgers that are later. -/
structure Inside (ledger transaction : Nat) (place : Toid) : Prop where
  behind (whole : Toid) : ofTransaction ledger transaction = .ok whole → whole < place
  ahead_of_transaction (ledger' transaction' : Nat) (later : Toid) :
    ofTransaction ledger' transaction' = .ok later →
      ledger < ledger' ∨ ledger = ledger' ∧ transaction < transaction' → place < later
  ahead_of_ledger (ledger' : Nat) (later : Toid) :
    ofLedger ledger' = .ok later → ledger < ledger' → place < later

/-- Operations count from 1, so that they lie inside of their transaction. -/
theorem inside_of_make {ledger transaction operation : Nat} {place : Toid}
    (hpos : 1 ≤ operation) (h : make ledger transaction operation = .ok place) :
    place.Inside ledger transaction := by
  obtain ⟨-, htransaction, hoperation, hraw⟩ := make_eq_ok_iff.mp h
  have hlater {ledger' transaction' : Nat} {later : Toid}
      (hmake : make ledger' transaction' 0 = .ok later)
      (hlt : ledger < ledger' ∨ ledger = ledger' ∧ transaction < transaction') :
      place < later := by
    obtain ⟨-, -, -, hraw'⟩ := make_eq_ok_iff.mp hmake
    show place.raw < later.raw
    rw [hraw, hraw', pack, pack]
    simp only [maxTransaction, maxOperation] at htransaction hoperation
    omega
  constructor
  · intro whole hwhole
    exact raw_lt_of_make hwhole h (.inr ⟨rfl, hpos⟩)
  · intro ledger' transaction' later hmake hlt
    exact hlater hmake hlt
  · intro ledger' later hmake hlt
    exact hlater hmake (.inl hlt)

/-- Parts have a place if they are in range, and else the first one that is not is reported. The
place has these parts, in bits of their own. Every word that is not negative is the number of a
place, which is packed again from its parts; so parts in range and words that are not negative
correspond, and in the same order. Operations lie inside of their transaction, and another
operation of a transaction differs from it in the order of the operation alone. -/
theorem packing_is_order_isomorphism :
    (∀ ledger transaction operation : Nat,
      (∃ toid, make ledger transaction operation = .ok toid) ↔
        ledger ≤ 2147483647 ∧ transaction ≤ 1048575 ∧ operation ≤ 4095) ∧
    (∀ (ledger transaction operation : Nat) (error : Error),
      make ledger transaction operation = .error error ↔
        2147483647 < ledger ∧ error = .ledgerRange ledger ∨
        ledger ≤ 2147483647 ∧ 1048575 < transaction ∧ error = .transactionRange transaction ∨
        ledger ≤ 2147483647 ∧ transaction ≤ 1048575 ∧ 4095 < operation ∧
          error = .operationRange operation) ∧
    (∀ (ledger transaction operation : Nat) (toid : Toid),
      make ledger transaction operation = .ok toid →
        toid.ledger = ledger ∧ toid.transaction = transaction ∧ toid.operation = operation ∧
          toid.raw = ledger <<< 32 ||| transaction <<< 12 ||| operation) ∧
    (∀ raw : Int64, 0 ≤ raw → ∃ toid, ofRaw raw = .ok toid ∧ toid.number = raw ∧
      toid.ledger ≤ 2147483647 ∧ toid.transaction ≤ 1048575 ∧ toid.operation ≤ 4095 ∧
      make toid.ledger toid.transaction toid.operation = .ok toid) ∧
    Function.Bijective Parts.number ∧
    (∀ a b : Parts, a.number.val < b.number.val ↔ a < b) ∧
    (∀ (ledger transaction operation : Nat) (toid place : Toid),
      ofTransaction ledger transaction = .ok toid → 1 ≤ operation →
        toid.atOperation operation = .ok place → place.Inside ledger transaction) ∧
    (∀ (toid : Toid) (operation : Nat),
      ((∃ place, toid.atOperation operation = .ok place) ↔ operation ≤ 4095) ∧
      ∀ place, toid.atOperation operation = .ok place →
        place.ledger = toid.ledger ∧ place.transaction = toid.transaction ∧
          place.operation = operation) := by
  refine ⟨fun _ _ _ => exists_make_iff, fun _ _ _ _ => make_eq_error_iff, ?_, ?_,
    ⟨Parts.number_injective, Parts.number_surjective⟩, fun _ _ => Parts.number_lt_number_iff, ?_,
    fun _ _ => ⟨exists_atOperation_iff, fun _ => parts_of_atOperation⟩⟩
  · intro ledger transaction operation toid h
    obtain ⟨-, htransaction, hoperation, hraw⟩ := make_eq_ok_iff.mp h
    exact ⟨ledger_of_make h, transaction_of_make h, operation_of_make h,
      hraw.trans (pack_eq_or htransaction hoperation)⟩
  · intro raw hraw
    obtain ⟨toid, htoid⟩ := exists_ofRaw_of_nonneg hraw
    exact ⟨toid, htoid, (ofRaw_eq_ok_iff.mp htoid).symm, toid.ledger_le, toid.transaction_le,
      toid.operation_le, toid.make_parts⟩
  · intro ledger transaction operation toid place htoid hpos hplace
    rw [atOperation_of_ofTransaction htoid] at hplace
    exact inside_of_make hpos hplace

/-- The last operation of a transaction is right ahead of the next transaction. -/
theorem last_operation_ahead_of_next_transaction :
    ∃ whole place later : Toid, ofTransaction 10 1 = .ok whole ∧
      whole.atOperation 4095 = .ok place ∧ ofTransaction 10 2 = .ok later ∧
      whole < place ∧ place < later ∧ place.raw + 1 = later.raw := by
  obtain ⟨-, -, -, -, -, -, hinside, -⟩ := packing_is_order_isomorphism
  have hplace := hinside 10 1 4095 _ _ rfl (by decide) rfl
  exact ⟨_, _, _, rfl, rfl, rfl, hplace.behind _ rfl,
    hplace.ahead_of_transaction 10 2 _ rfl (by decide), rfl⟩

end LedgerExport.Toid
