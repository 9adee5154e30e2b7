import LedgerExport.Protocol.Operation

/-!
# Transactions and their envelopes

A transaction stands in an envelope of one of three kinds: the oldest names its
source by a bare key, the current one by an account, and a fee bump wraps an
envelope of the current kind. What is signed is the transaction together with
the identifier of the network.

## Implementation notes

A transaction of the oldest kind is signed in its current form, so
`TransactionV0.upgrade` is part of the protocol and not of how it is shown.
-/

namespace LedgerExport.Protocol

open Xdr

/-- A note on a transaction. -/
inductive Memo
  | none
  | text (text : Octets)
  | id (id : UInt64)
  | hash (hash : Hash)
  | returnHash (hash : Hash)

def Memo.layout : Codec Memo :=
  union
    (fun
      | .none => ⟨0, void, ()⟩
      | .text t => ⟨1, octets 28, t⟩
      | .id n => ⟨2, uint64, n⟩
      | .hash h => ⟨3, fixed 32, h⟩
      | .returnHash h => ⟨4, fixed 32, h⟩)
    (fun
      | 0 => return .none
      | 1 => .text <$> (octets 28).read
      | 2 => .id <$> uint64.read
      | 3 => .hash <$> (fixed 32).read
      | 4 => .returnHash <$> (fixed 32).read
      | _ => throw .invalidValue)

/-- From when to when a transaction is valid. -/
structure TimeBounds where
  minTime : UInt64
  maxTime : UInt64

def TimeBounds.layout : Codec TimeBounds :=
  Layout.make TimeBounds.mk
    |>.field uint64 (·.minTime)
    |>.field uint64 (·.maxTime)

/-- In which ledgers a transaction is valid. -/
structure LedgerBounds where
  minLedger : UInt32
  maxLedger : UInt32

def LedgerBounds.layout : Codec LedgerBounds :=
  Layout.make LedgerBounds.mk
    |>.field uint32 (·.minLedger)
    |>.field uint32 (·.maxLedger)

/-- All that a transaction may ask for. -/
structure PreconditionsV2 where
  timeBounds : Option TimeBounds
  ledgerBounds : Option LedgerBounds
  minSequence : Option Int64
  minSequenceAge : UInt64
  minSequenceLedgerGap : UInt32
  extraSigners : List SignerKey

def PreconditionsV2.layout : Codec PreconditionsV2 :=
  Layout.make PreconditionsV2.mk
    |>.field (optional TimeBounds.layout) (·.timeBounds)
    |>.field (optional LedgerBounds.layout) (·.ledgerBounds)
    |>.field (optional int64) (·.minSequence)
    |>.field uint64 (·.minSequenceAge)
    |>.field uint32 (·.minSequenceLedgerGap)
    |>.field (list 2 SignerKey.layout) (·.extraSigners)

/-- When a transaction is valid. -/
inductive Preconditions
  | none
  | time (bounds : TimeBounds)
  | v2 (conditions : PreconditionsV2)

def Preconditions.layout : Codec Preconditions :=
  union
    (fun
      | .none => ⟨0, void, ()⟩
      | .time bounds => ⟨1, TimeBounds.layout, bounds⟩
      | .v2 conditions => ⟨2, PreconditionsV2.layout, conditions⟩)
    (fun
      | 0 => return .none
      | 1 => .time <$> TimeBounds.layout.read
      | 2 => .v2 <$> PreconditionsV2.layout.read
      | _ => throw .invalidValue)

/-- A signature and the last bytes of its key. -/
structure DecoratedSignature where
  hint : FixedBytes 4
  signature : Octets

def DecoratedSignature.layout : Codec DecoratedSignature :=
  Layout.make DecoratedSignature.mk
    |>.field (fixed 4) (·.hint)
    |>.field (octets 64) (·.signature)

/-- The signatures of an envelope. -/
abbrev Signatures := List DecoratedSignature

/-- At most twenty signatures. -/
def signatures : Codec Signatures :=
  list 20 DecoratedSignature.layout

/-- A transaction without its signatures. -/
structure Transaction where
  source : MuxedAccount
  fee : UInt32
  sequence : Int64
  preconditions : Preconditions
  memo : Memo
  operations : List Operation
  soroban : Option SorobanData

def Transaction.layout : Codec Transaction :=
  Layout.make Transaction.mk
    |>.field MuxedAccount.layout (·.source)
    |>.field uint32 (·.fee)
    |>.field int64 (·.sequence)
    |>.field Preconditions.layout (·.preconditions)
    |>.field Memo.layout (·.memo)
    |>.field (list 100 Operation.layout) (·.operations)
    |>.field (extension 1 SorobanData.layout) (·.soroban)

/-- A transaction of the oldest kind. -/
structure TransactionV0 where
  source : Ed25519
  fee : UInt32
  sequence : Int64
  timeBounds : Option TimeBounds
  memo : Memo
  operations : List Operation

def TransactionV0.layout : Codec TransactionV0 :=
  Layout.make TransactionV0.mk
    |>.field (fixed 32) (·.source)
    |>.field uint32 (·.fee)
    |>.field int64 (·.sequence)
    |>.field (optional TimeBounds.layout) (·.timeBounds)
    |>.field Memo.layout (·.memo)
    |>.field (list 100 Operation.layout) (·.operations)
    |>.mark 0

/-- A transaction of the oldest kind in the current form. -/
def TransactionV0.upgrade (tx : TransactionV0) : Transaction where
  source := .plain tx.source
  fee := tx.fee
  sequence := tx.sequence
  preconditions :=
    match tx.timeBounds with
    | some bounds => .time bounds
    | none => .none
  memo := tx.memo
  operations := tx.operations
  soroban := none

/-- A transaction of the oldest kind and its signatures. -/
structure SignedTransactionV0 where
  tx : TransactionV0
  signatures : Signatures

def SignedTransactionV0.layout : Codec SignedTransactionV0 :=
  Layout.make SignedTransactionV0.mk
    |>.field TransactionV0.layout (·.tx)
    |>.field Protocol.signatures (·.signatures)

/-- A transaction and its signatures. -/
structure SignedTransaction where
  tx : Transaction
  signatures : Signatures

def SignedTransaction.layout : Codec SignedTransaction :=
  Layout.make SignedTransaction.mk
    |>.field Transaction.layout (·.tx)
    |>.field Protocol.signatures (·.signatures)

/-- A signed transaction for which another account pays. -/
structure FeeBump where
  feeSource : MuxedAccount
  fee : Int64
  inner : SignedTransaction

def FeeBump.layout : Codec FeeBump :=
  Layout.make FeeBump.mk
    |>.field MuxedAccount.layout (·.feeSource)
    |>.field int64 (·.fee)
    |>.field (single 2 SignedTransaction.layout) (·.inner)
    |>.mark 0

/-- A fee bump and its signatures. -/
structure SignedFeeBump where
  tx : FeeBump
  signatures : Signatures

def SignedFeeBump.layout : Codec SignedFeeBump :=
  Layout.make SignedFeeBump.mk
    |>.field FeeBump.layout (·.tx)
    |>.field Protocol.signatures (·.signatures)

/-- A signed transaction of any kind. -/
inductive Envelope
  | v0 (envelope : SignedTransactionV0)
  | v1 (envelope : SignedTransaction)
  | feeBump (envelope : SignedFeeBump)

namespace Envelope

def layout : Codec Envelope :=
  union
    (fun
      | .v0 e => ⟨0, SignedTransactionV0.layout, e⟩
      | .v1 e => ⟨2, SignedTransaction.layout, e⟩
      | .feeBump e => ⟨5, SignedFeeBump.layout, e⟩)
    (fun
      | 0 => .v0 <$> SignedTransactionV0.layout.read
      | 2 => .v1 <$> SignedTransaction.layout.read
      | 5 => .feeBump <$> SignedFeeBump.layout.read
      | _ => throw .invalidValue)

/-- The operations of an envelope; those of a fee bump are the ones that it wraps. -/
def operations : Envelope → List Operation
  | .v0 e => e.tx.operations
  | .v1 e => e.tx.operations
  | .feeBump e => e.tx.inner.tx.operations

end Envelope

/-- A transaction as it is signed. -/
inductive TaggedTransaction
  | tx (tx : Transaction)
  | feeBump (tx : FeeBump)

def TaggedTransaction.layout : Codec TaggedTransaction :=
  union
    (fun
      | .tx t => ⟨2, Transaction.layout, t⟩
      | .feeBump t => ⟨5, FeeBump.layout, t⟩)
    (fun
      | 2 => .tx <$> Transaction.layout.read
      | 5 => .feeBump <$> FeeBump.layout.read
      | _ => throw .invalidValue)

/-- What the signatures of an envelope sign, but for the network. -/
def Envelope.tagged : Envelope → TaggedTransaction
  | .v0 e => .tx e.tx.upgrade
  | .v1 e => .tx e.tx
  | .feeBump e => .feeBump e.tx

/-- What is hashed and signed. -/
structure SignaturePayload where
  network : Hash
  transaction : TaggedTransaction

def SignaturePayload.layout : Codec SignaturePayload :=
  Layout.make SignaturePayload.mk
    |>.field (fixed 32) (·.network)
    |>.field TaggedTransaction.layout (·.transaction)

end LedgerExport.Protocol
