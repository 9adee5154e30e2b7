import LedgerExport.Network
import LedgerExport.Protocol.Ledger
import LedgerExport.Error

/-!
# Bringing results and envelopes together

A closed ledger lists envelopes in one order and results in another. A result
names the hash of its transaction, and gets an envelope of that hash: the one at
its own place if that has the hash, and otherwise the last one of the set that
has it, since envelopes that differ in their signatures alone share a hash.
-/

namespace LedgerExport

open Protocol

/-- A transaction of a closed ledger: its envelope and what became of it. -/
structure TransactionClosing where
  envelope : Envelope
  result : ResultPair
  feeChanges : List EntryChange
  postApplyFeeChanges : Option (List EntryChange)
  applied : TransactionMeta

/-- A closed ledger, its transactions in the order in which they were applied. -/
structure LedgerClosing where
  header : HeaderEntry
  transactions : List TransactionClosing

namespace LedgerClosing

/-- What became of a transaction, in either version of the report. -/
structure Applied where
  result : ResultPair
  feeChanges : List EntryChange
  postApplyFeeChanges : Option (List EntryChange)
  applied : TransactionMeta

/-- The older report does not know of late changes. -/
def Applied.ofProcessing (p : Processing) : Applied :=
  ⟨p.result, p.feeChanges, none, p.applied⟩

def Applied.ofProcessingV1 (p : ProcessingV1) : Applied :=
  ⟨p.result, p.feeChanges, some p.postApplyFeeChanges, p.applied⟩

/-- What became of a transaction, together with its envelope. -/
def Applied.close (applied : Applied) (envelope : Envelope) : TransactionClosing :=
  ⟨envelope, applied.result, applied.feeChanges, applied.postApplyFeeChanges, applied.applied⟩

/-- The header of a report. -/
def headerOf : LedgerClose → HeaderEntry
  | .v0 report => report.header
  | .v1 report => report.header
  | .v2 report => report.header

/-- The envelopes of a report in the order of its set. -/
def envelopesOf : LedgerClose → List Envelope
  | .v0 report => report.txSet.envelopes
  | .v1 report => report.txSet.envelopes
  | .v2 report => report.txSet.envelopes

/-- What became of the transactions of a report, in the order in which they were applied. -/
def appliedOf : LedgerClose → List Applied
  | .v0 report => report.processing.map .ofProcessing
  | .v1 report => report.processing.map .ofProcessing
  | .v2 report => report.processing.map .ofProcessingV1

/-- An envelope and its hash. -/
abbrev Hashed := Envelope × Hash

/-- The envelope of a hash, given the one at the same place and all of the set. -/
def envelopeFor (wanted : Hash) (here : Option Hashed) (all : List Hashed) : Option Envelope :=
  match here with
  | some (envelope, hash) =>
    if hash = wanted then some envelope else (all.findRev? (·.2 = wanted)).map (·.1)
  | none => (all.findRev? (·.2 = wanted)).map (·.1)

/-- Gives each result its envelope; `here` holds the envelopes from the place of the first on. -/
def pairFrom (ledger : UInt32) (all : List Hashed) :
    List Hashed → List Applied → Except Error (List TransactionClosing)
  | _, [] => .ok []
  | here, applied :: more =>
    match envelopeFor applied.result.hash here.head? all with
    | none => .error (.envelopeMissing applied.result.hash ledger.toNat)
    | some envelope => do
      let closings ← pairFrom ledger all here.tail more
      return applied.close envelope :: closings

/-- The closed ledger of a report. -/
def ofReport (network : NetworkId) (report : LedgerClose) : Except Error LedgerClosing := do
  let all := (envelopesOf report).map fun envelope => (envelope, envelope.hash network)
  let header := headerOf report
  let transactions ← pairFrom header.header.ledgerSeq all all (appliedOf report)
  return ⟨header, transactions⟩

/-- The sequence of a closed ledger. -/
def sequence (closing : LedgerClosing) : UInt32 :=
  closing.header.header.ledgerSeq

end LedgerClosing

end LedgerExport
