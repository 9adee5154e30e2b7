import LedgerExport.Record.Operation

/-!
# Envelopes as records

A transaction is shown in its current form whatever the kind of its envelope;
a fee bump shows the transaction that it wraps.
-/

namespace LedgerExport.Record

open Form

/-- A note on a transaction. -/
inductive Memo
  | none
  | text (text : String)
  | id (id : UInt64)
  | hash (hash : Hash)
  | returnHash (hash : Hash)

def Memo.form : Form Memo :=
  tagged
    (fun
      | .none => ⟨"none", unit, ()⟩
      | .text t => ⟨"text", value Form.text, t⟩
      | .id n => ⟨"id", value uint64, n⟩
      | .hash h => ⟨"hash", value Form.hash, h⟩
      | .returnHash h => ⟨"return", value Form.hash, h⟩)
    (fun
      | "none" => unit.into fun _ => .none
      | "text" => (value Form.text).into .text
      | "id" => (value uint64).into .id
      | "hash" => (value Form.hash).into .hash
      | "return" => (value Form.hash).into .returnHash
      | _ => fun _ => Option.none)

/-- From when to when a transaction is valid. -/
structure TimeBounds where
  minTime : UInt64
  maxTime : UInt64

def TimeBounds.form : Form TimeBounds :=
  record <| Fields.make TimeBounds.mk
    |>.field "min_time" uint64 (·.minTime)
    |>.field "max_time" uint64 (·.maxTime)

/-- In which ledgers a transaction is valid. -/
structure LedgerBounds where
  minLedger : UInt32
  maxLedger : UInt32

def LedgerBounds.form : Form LedgerBounds :=
  record <| Fields.make LedgerBounds.mk
    |>.field "min_ledger" uint32 (·.minLedger)
    |>.field "max_ledger" uint32 (·.maxLedger)

/-- All that a transaction may ask for. -/
structure PreconditionsV2 where
  timeBounds : Option TimeBounds
  ledgerBounds : Option LedgerBounds
  minSequence : Option Int64
  minSequenceAge : UInt64
  minSequenceLedgerGap : UInt32
  extraSigners : List SignerKey

def PreconditionsV2.form : Form PreconditionsV2 :=
  record <| Fields.make PreconditionsV2.mk
    |>.field "time_bounds" (option TimeBounds.form) (·.timeBounds)
    |>.field "ledger_bounds" (option LedgerBounds.form) (·.ledgerBounds)
    |>.field "min_seq_num" (option int64) (·.minSequence)
    |>.field "min_seq_age" uint64 (·.minSequenceAge)
    |>.field "min_seq_ledger_gap" uint32 (·.minSequenceLedgerGap)
    |>.field "extra_signers" (list SignerKey.form) (·.extraSigners)

/-- When a transaction is valid. -/
inductive Preconditions
  | none
  | time (bounds : TimeBounds)
  | v2 (conditions : PreconditionsV2)

def Preconditions.form : Form Preconditions :=
  tagged
    (fun
      | .none => ⟨"none", unit, ()⟩
      | .time bounds => ⟨"time", value TimeBounds.form, bounds⟩
      | .v2 conditions => ⟨"v2", value PreconditionsV2.form, conditions⟩)
    (fun
      | "none" => unit.into fun _ => .none
      | "time" => (value TimeBounds.form).into .time
      | "v2" => (value PreconditionsV2.form).into .v2
      | _ => fun _ => Option.none)

/-- A signature and the last bytes of its key. -/
structure DecoratedSignature where
  hint : String
  signature : String

def DecoratedSignature.form : Form DecoratedSignature :=
  record <| Fields.make DecoratedSignature.mk
    |>.field "hint" text (·.hint)
    |>.field "signature" text (·.signature)

/-- A transaction without its signatures. -/
structure Transaction where
  source : String
  fee : UInt32
  sequence : Int64
  preconditions : Preconditions
  memo : Memo
  operations : List Operation
  soroban : Option SorobanData

def Transaction.form : Form Transaction :=
  record <| Fields.make Transaction.mk
    |>.field "source_account" text (·.source)
    |>.field "fee" uint32 (·.fee)
    |>.field "seq_num" int64 (·.sequence)
    |>.field "preconditions" Preconditions.form (·.preconditions)
    |>.field "memo" Memo.form (·.memo)
    |>.field "operations" (list Operation.form) (·.operations)
    |>.field "soroban_data" (option SorobanData.form) (·.soroban)

/-- A transaction and its signatures. -/
structure SignedTransaction where
  tx : Transaction
  signatures : List DecoratedSignature

def SignedTransaction.form : Form SignedTransaction :=
  record <| Fields.make SignedTransaction.mk
    |>.field "tx" Transaction.form (·.tx)
    |>.field "signatures" (list DecoratedSignature.form) (·.signatures)

/-- A signed transaction for which another account pays. -/
structure FeeBump where
  feeSource : String
  fee : Int64
  inner : SignedTransaction
  signatures : List DecoratedSignature

def FeeBump.form : Form FeeBump :=
  record <| Fields.make FeeBump.mk
    |>.field "fee_source" text (·.feeSource)
    |>.field "fee" int64 (·.fee)
    |>.field "inner_tx" SignedTransaction.form (·.inner)
    |>.field "signatures" (list DecoratedSignature.form) (·.signatures)

/-- A signed transaction of any kind. -/
inductive Envelope
  | v0 (envelope : SignedTransaction)
  | v1 (envelope : SignedTransaction)
  | feeBump (envelope : FeeBump)

namespace Envelope

/-- The transaction of an envelope; that of a fee bump is the one that it wraps. -/
def inner : Envelope → SignedTransaction
  | .v0 e => e
  | .v1 e => e
  | .feeBump e => e.inner

/-- The operations of the transaction of an envelope. -/
def operations (envelope : Envelope) : List Operation :=
  envelope.inner.tx.operations

def form : Form Envelope :=
  tagged
    (fun
      | .v0 e => ⟨"tx_v0", value SignedTransaction.form, e⟩
      | .v1 e => ⟨"tx", value SignedTransaction.form, e⟩
      | .feeBump e => ⟨"tx_fee_bump", value FeeBump.form, e⟩)
    (fun
      | "tx_v0" => (value SignedTransaction.form).into .v0
      | "tx" => (value SignedTransaction.form).into .v1
      | "tx_fee_bump" => (value FeeBump.form).into .feeBump
      | _ => fun _ => none)

end Envelope

end LedgerExport.Record
