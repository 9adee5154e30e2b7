import LedgerExport.Network
import LedgerExport.Proofs.Protocol.TransactionCodecs

/-!
# What is signed

The bytes that are hashed and signed name the network and the transaction without
its own signatures, and nothing else. A transaction of the oldest kind stands in
them in its current form, and a fee bump never looks like another transaction.

## Implementation notes

An envelope stands for the one that it would be without its own signatures and in
the current form, so that what is signed is compared by equality of envelopes.
-/

namespace LedgerExport.Protocol

open Xdr

/-! ## The bare envelope -/

/-- The current form: a key as the source, time bounds as preconditions and no extension. -/
def TransactionV0.current (tx : TransactionV0) : Transaction where
  source := .plain tx.source
  fee := tx.fee
  sequence := tx.sequence
  preconditions := tx.timeBounds.elim .none .time
  memo := tx.memo
  operations := tx.operations
  soroban := none

theorem TransactionV0.upgrade_eq_current (tx : TransactionV0) : tx.upgrade = tx.current := by
  obtain ⟨source, fee, sequence, timeBounds, memo, operations⟩ := tx
  cases timeBounds with
  | none => rfl
  | some bounds => rfl

namespace Envelope

/-- The envelope in the current form and without its own signatures. -/
def bare : Envelope → Envelope
  | .v0 e => .v1 ⟨e.tx.current, []⟩
  | .v1 e => .v1 ⟨e.tx, []⟩
  | .feeBump e => .feeBump ⟨e.tx, []⟩

/-- The envelope with other signatures of its own. -/
def sign (signatures : Signatures) : Envelope → Envelope
  | .v0 e => .v0 ⟨e.tx, signatures⟩
  | .v1 e => .v1 ⟨e.tx, signatures⟩
  | .feeBump e => .feeBump ⟨e.tx, signatures⟩

/-- Whether the envelope wraps another one. -/
def isFeeBump : Envelope → Bool
  | .feeBump _ => true
  | _ => false

end Envelope

/-- The envelope that a transaction stands in before it is signed. -/
def TaggedTransaction.unsigned : TaggedTransaction → Envelope
  | .tx t => .v1 ⟨t, []⟩
  | .feeBump t => .feeBump ⟨t, []⟩

theorem TaggedTransaction.unsigned_inj {a b : TaggedTransaction} :
    a.unsigned = b.unsigned ↔ a = b := by
  refine ⟨fun h => ?_, congrArg unsigned⟩
  cases a with
  | tx t =>
      cases b with
      | tx t' =>
          cases h
          rfl
      | feeBump t' => cases h
  | feeBump t =>
      cases b with
      | tx t' => cases h
      | feeBump t' =>
          cases h
          rfl

namespace Envelope

theorem unsigned_tagged (envelope : Envelope) : envelope.tagged.unsigned = envelope.bare := by
  cases envelope with
  | v0 e =>
      show Envelope.v1 ⟨e.tx.upgrade, []⟩ = .v1 ⟨e.tx.current, []⟩
      rw [e.tx.upgrade_eq_current]
  | v1 e => rfl
  | feeBump e => rfl

theorem tagged_sign (envelope : Envelope) (signatures : Signatures) :
    (envelope.sign signatures).tagged = envelope.tagged := by
  cases envelope <;> rfl

theorem isFeeBump_bare (envelope : Envelope) : envelope.bare.isFeeBump = envelope.isFeeBump := by
  cases envelope <;> rfl

end Envelope

/-! ## What is signed fits -/

theorem TransactionV0.fits_upgrade {tx : TransactionV0} (h : TransactionV0.layout.fits tx) :
    Transaction.layout.fits tx.upgrade := by
  obtain ⟨source, fee, sequence, timeBounds, memo, operations⟩ := tx
  obtain ⟨⟨⟨-, -⟩, hmemo⟩, hoperations⟩ := h
  have hpreconditions : Preconditions.layout.fits (TransactionV0.upgrade
      ⟨source, fee, sequence, timeBounds, memo, operations⟩).preconditions := by
    cases timeBounds with
    | none => trivial
    | some bounds => exact ⟨⟨trivial, trivial⟩, trivial⟩
  exact ⟨⟨⟨⟨⟨⟨⟨trivial, trivial⟩, trivial⟩, trivial⟩, hpreconditions⟩, hmemo⟩, hoperations⟩,
    trivial⟩

theorem Envelope.fits_tagged {envelope : Envelope} (h : Envelope.layout.fits envelope) :
    TaggedTransaction.layout.fits envelope.tagged := by
  cases envelope with
  | v0 e => exact TransactionV0.fits_upgrade h.1.2
  | v1 e => exact h.1.2
  | feeBump e => exact h.1.2

theorem Envelope.fits_bare {envelope : Envelope} (h : Envelope.layout.fits envelope) :
    Envelope.layout.fits envelope.bare := by
  have hunsigned : signatures.fits [] := ⟨Nat.zero_le _, by simp⟩
  cases envelope with
  | v0 e =>
      have hcurrent := TransactionV0.fits_upgrade h.1.2
      rw [e.tx.upgrade_eq_current] at hcurrent
      exact ⟨⟨trivial, hcurrent⟩, hunsigned⟩
  | v1 e => exact ⟨h.1, hunsigned⟩
  | feeBump e => exact ⟨h.1, hunsigned⟩

/-! ## The signed bytes -/

namespace Envelope

variable {network network' : NetworkId} {a b : Envelope}

theorem signedBytes_eq_iff (ha : Envelope.layout.fits a) (hb : Envelope.layout.fits b) :
    a.signedBytes network = b.signedBytes network' ↔ network = network' ∧ a.bare = b.bare := by
  obtain ⟨hash⟩ := network
  obtain ⟨hash'⟩ := network'
  have hpayload := SignaturePayload.faithful.encode_inj
    (a := ⟨hash, a.tagged⟩) (b := ⟨hash', b.tagged⟩)
    ⟨⟨trivial, trivial⟩, fits_tagged ha⟩ ⟨⟨trivial, trivial⟩, fits_tagged hb⟩
  rw [signedBytes, signedBytes, hpayload, SignaturePayload.mk.injEq, NetworkId.mk.injEq,
    ← unsigned_tagged, ← unsigned_tagged, TaggedTransaction.unsigned_inj]

/-- The signed bytes tell networks and bare envelopes apart. So its own signatures never change the
hash of an envelope, the oldest kind has the hash of its current form, and a fee bump shares its
signed bytes with no other kind. -/
theorem signedBytes_identify_bare (ha : Envelope.layout.fits a) (hb : Envelope.layout.fits b) :
    (a.signedBytes network = b.signedBytes network' ↔ network = network' ∧ a.bare = b.bare) ∧
      (∀ signatures, (a.sign signatures).hash network = a.hash network) ∧
      (∀ (e : SignedTransactionV0) (signatures : Signatures),
        (Envelope.v0 e).hash network = (Envelope.v1 ⟨e.tx.current, signatures⟩).hash network) ∧
      (a.isFeeBump = true → b.isFeeBump = false →
        a.signedBytes network ≠ b.signedBytes network') := by
  refine ⟨signedBytes_eq_iff ha hb, fun signatures => ?_, fun e signatures => ?_,
    fun hfee hplain hbytes => ?_⟩
  · rw [Envelope.hash, signedBytes, tagged_sign]
    rfl
  · rw [← e.tx.upgrade_eq_current]
    rfl
  · have hbare := congrArg isFeeBump ((signedBytes_eq_iff ha hb).mp hbytes).2
    rw [isFeeBump_bare, isFeeBump_bare, hfee, hplain] at hbare
    cases hbare

/-- A signed transaction of the oldest kind, with time bounds and an operation. -/
def oldestSigned : Envelope :=
  .v0 ⟨⟨FixedBytes.zero 32, 100, 7, some ⟨1, 2⟩, .none, [⟨none, .bumpSequence ⟨9⟩⟩]⟩,
    [⟨FixedBytes.zero 4, [1]⟩]⟩

/-- The current form of that transaction, paid for by another account. -/
def currentWrapped : Envelope :=
  .feeBump ⟨⟨.plain (FixedBytes.zero 32), 200, ⟨⟨.plain (FixedBytes.zero 32), 100, 7,
    .time ⟨1, 2⟩, .none, [⟨none, .bumpSequence ⟨9⟩⟩], none⟩, []⟩⟩, []⟩

theorem oldest_form_shares_signed_bytes :
    Envelope.layout.fits oldestSigned ∧ Envelope.layout.fits currentWrapped ∧
      oldestSigned.signedBytes ⟨FixedBytes.zero 32⟩ =
        oldestSigned.bare.signedBytes ⟨FixedBytes.zero 32⟩ ∧
      currentWrapped.signedBytes ⟨FixedBytes.zero 32⟩ ≠
        oldestSigned.signedBytes ⟨FixedBytes.zero 32⟩ := by
  have hunsigned : signatures.fits [] := ⟨Nat.zero_le _, by simp⟩
  have hsigned : signatures.fits [⟨FixedBytes.zero 4, [1]⟩] :=
    ⟨by decide, List.forall_mem_singleton.mpr ⟨⟨trivial, trivial⟩, (by decide : 1 ≤ 64)⟩⟩
  have hbounds : TimeBounds.layout.fits ⟨1, 2⟩ := ⟨⟨trivial, trivial⟩, trivial⟩
  have hoperations : (list 100 Operation.layout).fits [⟨none, .bumpSequence ⟨9⟩⟩] :=
    ⟨by decide, List.forall_mem_singleton.mpr ⟨⟨trivial, trivial⟩, trivial, trivial⟩⟩
  have holdest : Envelope.layout.fits oldestSigned :=
    ⟨⟨trivial, ⟨⟨⟨⟨⟨⟨trivial, trivial⟩, trivial⟩, trivial⟩, hbounds⟩, trivial⟩, hoperations⟩⟩,
      hsigned⟩
  have hcurrent : Envelope.layout.fits currentWrapped :=
    ⟨⟨trivial, ⟨⟨⟨trivial, trivial⟩, trivial⟩, ⟨⟨trivial,
      ⟨⟨⟨⟨⟨⟨⟨trivial, trivial⟩, trivial⟩, trivial⟩, hbounds⟩, trivial⟩, hoperations⟩, trivial⟩⟩,
      hunsigned⟩⟩⟩, hunsigned⟩
  exact ⟨holdest, hcurrent,
    (signedBytes_identify_bare holdest (fits_bare holdest)).1.mpr ⟨rfl, rfl⟩,
    (signedBytes_identify_bare hcurrent holdest).2.2.2 rfl rfl⟩

end Envelope

end LedgerExport.Protocol
