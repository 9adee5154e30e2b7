import LedgerExport.Protocol.Consensus
import LedgerExport.Protocol.Meta
import LedgerExport.Protocol.Transaction

/-!
# Closed ledgers

What the network reports when it closes a ledger: the header, the set of
transactions that it agreed on, and for each transaction, in the order in which
they were applied, its result and metadata.

## Implementation notes

The set is in the order of its hash and the results are in the order of
application, so nothing in the report itself says which belong together.
-/

namespace LedgerExport.Protocol

open Xdr

/-! ## Headers and upgrades -/

/-- A setting that contracts made, by its place. -/
structure UpgradeKey where
  contract : ContractId
  contentHash : Hash

def UpgradeKey.layout : Codec UpgradeKey :=
  Layout.make UpgradeKey.mk
    |>.field ContractId.layout (·.contract)
    |>.field (fixed 32) (·.contentHash)

/-- A change of the rules of the network. -/
inductive LedgerUpgrade
  | version (version : UInt32)
  | baseFee (fee : UInt32)
  | maxTxSetSize (size : UInt32)
  | baseReserve (reserve : UInt32)
  | flags (flags : UInt32)
  | config (key : UpgradeKey)
  | maxSorobanTxSetSize (size : UInt32)

def LedgerUpgrade.layout : Codec LedgerUpgrade :=
  union
    (fun
      | .version n => ⟨1, uint32, n⟩
      | .baseFee n => ⟨2, uint32, n⟩
      | .maxTxSetSize n => ⟨3, uint32, n⟩
      | .baseReserve n => ⟨4, uint32, n⟩
      | .flags n => ⟨5, uint32, n⟩
      | .config key => ⟨6, UpgradeKey.layout, key⟩
      | .maxSorobanTxSetSize n => ⟨7, uint32, n⟩)
    (fun
      | 1 => .version <$> uint32.read
      | 2 => .baseFee <$> uint32.read
      | 3 => .maxTxSetSize <$> uint32.read
      | 4 => .baseReserve <$> uint32.read
      | 5 => .flags <$> uint32.read
      | 6 => .config <$> UpgradeKey.layout.read
      | 7 => .maxSorobanTxSetSize <$> uint32.read
      | _ => throw .invalidValue)

/-- Who signed the value of a ledger. -/
structure CloseSignature where
  node : AccountId
  signature : Octets

def CloseSignature.layout : Codec CloseSignature :=
  Layout.make CloseSignature.mk
    |>.field AccountId.layout (·.node)
    |>.field (octets 64) (·.signature)

/-- What the consensus agreed on; upgrades are kept as they were encoded. -/
structure CloseValue where
  txSetHash : Hash
  closeTime : UInt64
  upgrades : List Octets
  signature : Option CloseSignature

def CloseValue.layout : Codec CloseValue :=
  Layout.make CloseValue.mk
    |>.field (fixed 32) (·.txSetHash)
    |>.field uint64 (·.closeTime)
    |>.field (list 6 (octets 128)) (·.upgrades)
    |>.field (extension 1 CloseSignature.layout) (·.signature)

/-- The header of a ledger. -/
structure LedgerHeader where
  ledgerVersion : UInt32
  previousLedgerHash : Hash
  closeValue : CloseValue
  txSetResultHash : Hash
  bucketListHash : Hash
  ledgerSeq : UInt32
  totalCoins : Int64
  feePool : Int64
  inflationSeq : UInt32
  idPool : UInt64
  baseFee : UInt32
  baseReserve : UInt32
  maxTxSetSize : UInt32
  skipList : FixedBytes 128
  flags : Option UInt32

def LedgerHeader.layout : Codec LedgerHeader :=
  Layout.make LedgerHeader.mk
    |>.field uint32 (·.ledgerVersion)
    |>.field (fixed 32) (·.previousLedgerHash)
    |>.field CloseValue.layout (·.closeValue)
    |>.field (fixed 32) (·.txSetResultHash)
    |>.field (fixed 32) (·.bucketListHash)
    |>.field uint32 (·.ledgerSeq)
    |>.field int64 (·.totalCoins)
    |>.field int64 (·.feePool)
    |>.field uint32 (·.inflationSeq)
    |>.field uint64 (·.idPool)
    |>.field uint32 (·.baseFee)
    |>.field uint32 (·.baseReserve)
    |>.field uint32 (·.maxTxSetSize)
    |>.field (fixed 128) (·.skipList)
    |>.field (extension 1 (Layout.make id |>.field uint32 id |>.mark 0)) (·.flags)

/-- A header and its hash. -/
structure HeaderEntry where
  hash : Hash
  header : LedgerHeader

def HeaderEntry.layout : Codec HeaderEntry :=
  Layout.make HeaderEntry.mk
    |>.field (fixed 32) (·.hash)
    |>.field LedgerHeader.layout (·.header)
    |>.mark 0

/-! ## Sets of transactions -/

/-- Transactions that pay one fee, perhaps a lower one. -/
structure Component where
  baseFee : Option Int64
  envelopes : List Envelope

def Component.layout : Codec Component :=
  single 0 <| Layout.make Component.mk
    |>.field (optional int64) (·.baseFee)
    |>.field (many Envelope.layout) (·.envelopes)

/-- Stages of clusters of transactions; the clusters of a stage may run side by side. -/
structure ParallelComponent where
  baseFee : Option Int64
  stages : List (List (List Envelope))

def ParallelComponent.layout : Codec ParallelComponent :=
  Layout.make ParallelComponent.mk
    |>.field (optional int64) (·.baseFee)
    |>.field (many (many (many Envelope.layout))) (·.stages)

/-- A part of a set. -/
inductive Phase
  | components (components : List Component)
  | parallel (component : ParallelComponent)

namespace Phase

def layout : Codec Phase :=
  union
    (fun
      | .components cs => ⟨0, many Component.layout, cs⟩
      | .parallel c => ⟨1, ParallelComponent.layout, c⟩)
    (fun
      | 0 => .components <$> (many Component.layout).read
      | 1 => .parallel <$> ParallelComponent.layout.read
      | _ => throw .invalidValue)

/-- The envelopes of a phase in order. -/
def envelopes : Phase → List Envelope
  | .components cs => cs.flatMap (·.envelopes)
  | .parallel c => c.stages.flatten.flatten

end Phase

/-- A set of transactions in the oldest form. -/
structure TransactionSet where
  previousLedgerHash : Hash
  envelopes : List Envelope

def TransactionSet.layout : Codec TransactionSet :=
  Layout.make TransactionSet.mk
    |>.field (fixed 32) (·.previousLedgerHash)
    |>.field (many Envelope.layout) (·.envelopes)

/-- A set of transactions in phases. -/
structure GeneralizedSet where
  previousLedgerHash : Hash
  phases : List Phase

namespace GeneralizedSet

def layout : Codec GeneralizedSet :=
  single 1 <| Layout.make GeneralizedSet.mk
    |>.field (fixed 32) (·.previousLedgerHash)
    |>.field (many Phase.layout) (·.phases)

/-- The envelopes of a set in order. -/
def envelopes (set : GeneralizedSet) : List Envelope :=
  set.phases.flatMap (·.envelopes)

end GeneralizedSet

/-! ## Reports -/

/-- What became of one transaction. -/
structure Processing where
  result : ResultPair
  feeChanges : List EntryChange
  applied : TransactionMeta

def Processing.layout : Codec Processing :=
  Layout.make Processing.mk
    |>.field ResultPair.layout (·.result)
    |>.field EntryChange.layouts (·.feeChanges)
    |>.field TransactionMeta.layout (·.applied)

/-- The same with what the fee changed after all transactions were applied. -/
structure ProcessingV1 where
  result : ResultPair
  feeChanges : List EntryChange
  applied : TransactionMeta
  postApplyFeeChanges : List EntryChange

def ProcessingV1.layout : Codec ProcessingV1 :=
  Layout.make ProcessingV1.mk
    |>.mark 0
    |>.field ResultPair.layout (·.result)
    |>.field EntryChange.layouts (·.feeChanges)
    |>.field TransactionMeta.layout (·.applied)
    |>.field EntryChange.layouts (·.postApplyFeeChanges)

/-- What an upgrade changed. -/
structure UpgradeMeta where
  upgrade : LedgerUpgrade
  changes : List EntryChange

def UpgradeMeta.layout : Codec UpgradeMeta :=
  Layout.make UpgradeMeta.mk
    |>.field LedgerUpgrade.layout (·.upgrade)
    |>.field EntryChange.layouts (·.changes)

/-- The oldest report. -/
structure LedgerCloseV0 where
  header : HeaderEntry
  txSet : TransactionSet
  processing : List Processing
  upgrades : List UpgradeMeta
  consensus : List ConsensusHistory

def LedgerCloseV0.layout : Codec LedgerCloseV0 :=
  Layout.make LedgerCloseV0.mk
    |>.field HeaderEntry.layout (·.header)
    |>.field TransactionSet.layout (·.txSet)
    |>.field (many Processing.layout) (·.processing)
    |>.field (many UpgradeMeta.layout) (·.upgrades)
    |>.field (many ConsensusHistory.layout) (·.consensus)

/-- The fee of writing a kilobyte, behind a mark of its own. -/
def writeFee : Codec Int64 :=
  Layout.make id |>.mark 0 |>.field int64 id

/-- A report with a set in phases and evicted entries. -/
structure LedgerCloseV1 where
  writeFee : Option Int64
  header : HeaderEntry
  txSet : GeneralizedSet
  processing : List Processing
  upgrades : List UpgradeMeta
  consensus : List ConsensusHistory
  liveStateSize : UInt64
  evictedKeys : List LedgerKey
  unused : List LedgerEntry

def LedgerCloseV1.layout : Codec LedgerCloseV1 :=
  Layout.make LedgerCloseV1.mk
    |>.field (extension 1 Protocol.writeFee) (·.writeFee)
    |>.field HeaderEntry.layout (·.header)
    |>.field GeneralizedSet.layout (·.txSet)
    |>.field (many Processing.layout) (·.processing)
    |>.field (many UpgradeMeta.layout) (·.upgrades)
    |>.field (many ConsensusHistory.layout) (·.consensus)
    |>.field uint64 (·.liveStateSize)
    |>.field (many LedgerKey.layout) (·.evictedKeys)
    |>.field (many LedgerEntry.layout) (·.unused)

/-- A report with late changes of fees. -/
structure LedgerCloseV2 where
  writeFee : Option Int64
  header : HeaderEntry
  txSet : GeneralizedSet
  processing : List ProcessingV1
  upgrades : List UpgradeMeta
  consensus : List ConsensusHistory
  liveStateSize : UInt64
  evictedKeys : List LedgerKey

def LedgerCloseV2.layout : Codec LedgerCloseV2 :=
  Layout.make LedgerCloseV2.mk
    |>.field (extension 1 Protocol.writeFee) (·.writeFee)
    |>.field HeaderEntry.layout (·.header)
    |>.field GeneralizedSet.layout (·.txSet)
    |>.field (many ProcessingV1.layout) (·.processing)
    |>.field (many UpgradeMeta.layout) (·.upgrades)
    |>.field (many ConsensusHistory.layout) (·.consensus)
    |>.field uint64 (·.liveStateSize)
    |>.field (many LedgerKey.layout) (·.evictedKeys)

/-- A closed ledger, in any version. -/
inductive LedgerClose
  | v0 (report : LedgerCloseV0)
  | v1 (report : LedgerCloseV1)
  | v2 (report : LedgerCloseV2)

def LedgerClose.layout : Codec LedgerClose :=
  union
    (fun
      | .v0 report => ⟨0, LedgerCloseV0.layout, report⟩
      | .v1 report => ⟨1, LedgerCloseV1.layout, report⟩
      | .v2 report => ⟨2, LedgerCloseV2.layout, report⟩)
    (fun
      | 0 => .v0 <$> LedgerCloseV0.layout.read
      | 1 => .v1 <$> LedgerCloseV1.layout.read
      | 2 => .v2 <$> LedgerCloseV2.layout.read
      | _ => throw .invalidValue)

end LedgerExport.Protocol
