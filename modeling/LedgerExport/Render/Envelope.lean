import LedgerExport.Protocol.Transaction
import LedgerExport.Record.Envelope
import LedgerExport.Render.Operation

/-!
# Envelopes as they are shown

A transaction of the oldest kind is shown in its current form, in an envelope
that still says its kind.
-/

namespace LedgerExport.Protocol

def Memo.render : Memo → Record.Memo
  | .none => .none
  | .text t => .text (Utf8.lossy t)
  | .id n => .id n
  | .hash h => .hash h
  | .returnHash h => .returnHash h

def TimeBounds.render (p : TimeBounds) : Record.TimeBounds where
  minTime := p.minTime
  maxTime := p.maxTime

def LedgerBounds.render (p : LedgerBounds) : Record.LedgerBounds where
  minLedger := p.minLedger
  maxLedger := p.maxLedger

def PreconditionsV2.render (p : PreconditionsV2) : Record.PreconditionsV2 where
  timeBounds := p.timeBounds.map (·.render)
  ledgerBounds := p.ledgerBounds.map (·.render)
  minSequence := p.minSequence
  minSequenceAge := p.minSequenceAge
  minSequenceLedgerGap := p.minSequenceLedgerGap
  extraSigners := p.extraSigners.map (·.render)

def Preconditions.render : Preconditions → Record.Preconditions
  | .none => .none
  | .time bounds => .time bounds.render
  | .v2 conditions => .v2 conditions.render

def DecoratedSignature.render (p : DecoratedSignature) : Record.DecoratedSignature where
  hint := Hex.text p.hint.bytes
  signature := Hex.text p.signature

def Transaction.render (p : Transaction) : Record.Transaction where
  source := p.source.text
  fee := p.fee
  sequence := p.sequence
  preconditions := p.preconditions.render
  memo := p.memo.render
  operations := p.operations.map (·.render)
  soroban := p.soroban.map (·.render)

def SignedTransaction.render (p : SignedTransaction) : Record.SignedTransaction where
  tx := p.tx.render
  signatures := p.signatures.map (·.render)

def Envelope.render : Envelope → Record.Envelope
  | .v0 e => .v0 ⟨e.tx.upgrade.render, e.signatures.map (·.render)⟩
  | .v1 e => .v1 e.render
  | .feeBump e =>
    .feeBump ⟨e.tx.feeSource.text, e.tx.fee, e.tx.inner.render, e.signatures.map (·.render)⟩

end LedgerExport.Protocol
