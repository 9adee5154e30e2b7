import LedgerExport.Protocol.Key

/-!
# Network settings

The settings that the network votes on, some of their numbers in words of 32 bits
and others in words of 64.
-/

namespace LedgerExport.Protocol

open Xdr

/-- The name of a setting. -/
inductive SettingId
  | contractMaxSizeBytes
  | contractCompute
  | contractLedgerCost
  | contractHistoricalData
  | contractEvents
  | contractBandwidth
  | costParametersCpu
  | costParametersMemory
  | contractDataKeySizeBytes
  | contractDataEntrySizeBytes
  | stateArchival
  | contractExecutionLanes
  | liveStateSizeWindow
  | evictionIterator
  | contractParallelCompute
  | contractLedgerCostExt
  | scpTiming
deriving DecidableEq

namespace SettingId

/-- All names, in the order of their numbers. -/
def members : List SettingId :=
  [contractMaxSizeBytes, contractCompute, contractLedgerCost, contractHistoricalData,
   contractEvents, contractBandwidth, costParametersCpu, costParametersMemory,
   contractDataKeySizeBytes, contractDataEntrySizeBytes, stateArchival, contractExecutionLanes,
   liveStateSizeWindow, evictionIterator, contractParallelCompute, contractLedgerCostExt,
   scpTiming]

def layout : Codec SettingId :=
  enumeration members fun id => UInt32.ofNat id.ctorIdx

end SettingId

/-- A constant and a factor of the cost model. -/
structure CostParameters where
  constTerm : Int64
  linearTerm : Int64

def CostParameters.layout : Codec CostParameters :=
  Layout.make CostParameters.mk
    |>.mark 0
    |>.field int64 (·.constTerm)
    |>.field int64 (·.linearTerm)

/-- Limits and fees of computation. -/
structure Compute where
  ledgerMaxInstructions : Int64
  txMaxInstructions : Int64
  feeRatePerInstructionsIncrement : Int64
  txMemoryLimit : UInt32

def Compute.layout : Codec Compute :=
  Layout.make Compute.mk
    |>.field int64 (·.ledgerMaxInstructions)
    |>.field int64 (·.txMaxInstructions)
    |>.field int64 (·.feeRatePerInstructionsIncrement)
    |>.field uint32 (·.txMemoryLimit)

/-- Limits and fees of reading and writing entries. -/
structure LedgerCost where
  ledgerMaxDiskReadEntries : UInt32
  ledgerMaxDiskReadBytes : UInt32
  ledgerMaxWriteLedgerEntries : UInt32
  ledgerMaxWriteBytes : UInt32
  txMaxDiskReadEntries : UInt32
  txMaxDiskReadBytes : UInt32
  txMaxWriteLedgerEntries : UInt32
  txMaxWriteBytes : UInt32
  feeDiskReadLedgerEntry : Int64
  feeWriteLedgerEntry : Int64
  feeDiskRead1kb : Int64
  stateTargetSizeBytes : Int64
  rentFee1kbStateSizeLow : Int64
  rentFee1kbStateSizeHigh : Int64
  stateRentFeeGrowthFactor : UInt32

def LedgerCost.layout : Codec LedgerCost :=
  Layout.make LedgerCost.mk
    |>.field uint32 (·.ledgerMaxDiskReadEntries)
    |>.field uint32 (·.ledgerMaxDiskReadBytes)
    |>.field uint32 (·.ledgerMaxWriteLedgerEntries)
    |>.field uint32 (·.ledgerMaxWriteBytes)
    |>.field uint32 (·.txMaxDiskReadEntries)
    |>.field uint32 (·.txMaxDiskReadBytes)
    |>.field uint32 (·.txMaxWriteLedgerEntries)
    |>.field uint32 (·.txMaxWriteBytes)
    |>.field int64 (·.feeDiskReadLedgerEntry)
    |>.field int64 (·.feeWriteLedgerEntry)
    |>.field int64 (·.feeDiskRead1kb)
    |>.field int64 (·.stateTargetSizeBytes)
    |>.field int64 (·.rentFee1kbStateSizeLow)
    |>.field int64 (·.rentFee1kbStateSizeHigh)
    |>.field uint32 (·.stateRentFeeGrowthFactor)

/-- Limits and fees of events. -/
structure Events where
  txMaxContractEventsSizeBytes : UInt32
  feeContractEvents1kb : Int64

def Events.layout : Codec Events :=
  Layout.make Events.mk
    |>.field uint32 (·.txMaxContractEventsSizeBytes)
    |>.field int64 (·.feeContractEvents1kb)

/-- Limits and fees of transaction sizes. -/
structure Bandwidth where
  ledgerMaxTxsSizeBytes : UInt32
  txMaxSizeBytes : UInt32
  feeTxSize1kb : Int64

def Bandwidth.layout : Codec Bandwidth :=
  Layout.make Bandwidth.mk
    |>.field uint32 (·.ledgerMaxTxsSizeBytes)
    |>.field uint32 (·.txMaxSizeBytes)
    |>.field int64 (·.feeTxSize1kb)

/-- How long entries live and what it costs. -/
structure StateArchival where
  maxEntryTtl : UInt32
  minTemporaryTtl : UInt32
  minPersistentTtl : UInt32
  persistentRentRateDenominator : Int64
  tempRentRateDenominator : Int64
  maxEntriesToArchive : UInt32
  windowSampleSize : UInt32
  windowSamplePeriod : UInt32
  evictionScanSize : UInt32
  startingEvictionScanLevel : UInt32

def StateArchival.layout : Codec StateArchival :=
  Layout.make StateArchival.mk
    |>.field uint32 (·.maxEntryTtl)
    |>.field uint32 (·.minTemporaryTtl)
    |>.field uint32 (·.minPersistentTtl)
    |>.field int64 (·.persistentRentRateDenominator)
    |>.field int64 (·.tempRentRateDenominator)
    |>.field uint32 (·.maxEntriesToArchive)
    |>.field uint32 (·.windowSampleSize)
    |>.field uint32 (·.windowSamplePeriod)
    |>.field uint32 (·.evictionScanSize)
    |>.field uint32 (·.startingEvictionScanLevel)

/-- Where the scan for entries to evict stands. -/
structure Eviction where
  bucketListLevel : UInt32
  isCurrBucket : Bool
  bucketFileOffset : UInt64

def Eviction.layout : Codec Eviction :=
  Layout.make Eviction.mk
    |>.field uint32 (·.bucketListLevel)
    |>.field bool (·.isCurrBucket)
    |>.field uint64 (·.bucketFileOffset)

/-- Further limits and fees of entries. -/
structure LedgerCostMore where
  txMaxFootprintEntries : UInt32
  feeWrite1kb : Int64

def LedgerCostMore.layout : Codec LedgerCostMore :=
  Layout.make LedgerCostMore.mk
    |>.field uint32 (·.txMaxFootprintEntries)
    |>.field int64 (·.feeWrite1kb)

/-- The timing of the consensus. -/
structure Timing where
  ledgerTargetCloseTimeMilliseconds : UInt32
  nominationTimeoutInitialMilliseconds : UInt32
  nominationTimeoutIncrementMilliseconds : UInt32
  ballotTimeoutInitialMilliseconds : UInt32
  ballotTimeoutIncrementMilliseconds : UInt32

def Timing.layout : Codec Timing :=
  Layout.make Timing.mk
    |>.field uint32 (·.ledgerTargetCloseTimeMilliseconds)
    |>.field uint32 (·.nominationTimeoutInitialMilliseconds)
    |>.field uint32 (·.nominationTimeoutIncrementMilliseconds)
    |>.field uint32 (·.ballotTimeoutInitialMilliseconds)
    |>.field uint32 (·.ballotTimeoutIncrementMilliseconds)

/-- A setting. -/
inductive Setting
  | contractMaxSizeBytes (bytes : UInt32)
  | contractCompute (limits : Compute)
  | contractLedgerCost (limits : LedgerCost)
  | contractHistoricalData (feeHistorical1kb : Int64)
  | contractEvents (limits : Events)
  | contractBandwidth (limits : Bandwidth)
  | costParametersCpu (parameters : List CostParameters)
  | costParametersMemory (parameters : List CostParameters)
  | contractDataKeySizeBytes (bytes : UInt32)
  | contractDataEntrySizeBytes (bytes : UInt32)
  | stateArchival (limits : StateArchival)
  | contractExecutionLanes (ledgerMaxTxCount : UInt32)
  | liveStateSizeWindow (sizes : List UInt64)
  | evictionIterator (limits : Eviction)
  | contractParallelCompute (ledgerMaxDependentTxClusters : UInt32)
  | contractLedgerCostExt (limits : LedgerCostMore)
  | scpTiming (limits : Timing)

def Setting.layout : Codec Setting :=
  union
    (fun
      | .contractMaxSizeBytes v => ⟨0, uint32, v⟩
      | .contractCompute v => ⟨1, Compute.layout, v⟩
      | .contractLedgerCost v => ⟨2, LedgerCost.layout, v⟩
      | .contractHistoricalData v => ⟨3, int64, v⟩
      | .contractEvents v => ⟨4, Events.layout, v⟩
      | .contractBandwidth v => ⟨5, Bandwidth.layout, v⟩
      | .costParametersCpu v => ⟨6, list 1024 CostParameters.layout, v⟩
      | .costParametersMemory v => ⟨7, list 1024 CostParameters.layout, v⟩
      | .contractDataKeySizeBytes v => ⟨8, uint32, v⟩
      | .contractDataEntrySizeBytes v => ⟨9, uint32, v⟩
      | .stateArchival v => ⟨10, StateArchival.layout, v⟩
      | .contractExecutionLanes v => ⟨11, uint32, v⟩
      | .liveStateSizeWindow v => ⟨12, many uint64, v⟩
      | .evictionIterator v => ⟨13, Eviction.layout, v⟩
      | .contractParallelCompute v => ⟨14, uint32, v⟩
      | .contractLedgerCostExt v => ⟨15, LedgerCostMore.layout, v⟩
      | .scpTiming v => ⟨16, Timing.layout, v⟩)
    (fun
      | 0 => .contractMaxSizeBytes <$> uint32.read
      | 1 => .contractCompute <$> Compute.layout.read
      | 2 => .contractLedgerCost <$> LedgerCost.layout.read
      | 3 => .contractHistoricalData <$> int64.read
      | 4 => .contractEvents <$> Events.layout.read
      | 5 => .contractBandwidth <$> Bandwidth.layout.read
      | 6 => .costParametersCpu <$> (list 1024 CostParameters.layout).read
      | 7 => .costParametersMemory <$> (list 1024 CostParameters.layout).read
      | 8 => .contractDataKeySizeBytes <$> uint32.read
      | 9 => .contractDataEntrySizeBytes <$> uint32.read
      | 10 => .stateArchival <$> StateArchival.layout.read
      | 11 => .contractExecutionLanes <$> uint32.read
      | 12 => .liveStateSizeWindow <$> (many uint64).read
      | 13 => .evictionIterator <$> Eviction.layout.read
      | 14 => .contractParallelCompute <$> uint32.read
      | 15 => .contractLedgerCostExt <$> LedgerCostMore.layout.read
      | 16 => .scpTiming <$> Timing.layout.read
      | _ => throw .invalidValue)

end LedgerExport.Protocol
