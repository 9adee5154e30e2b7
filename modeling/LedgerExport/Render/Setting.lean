import LedgerExport.Protocol.Setting
import LedgerExport.Record.Setting

/-!
# Settings as they are shown

The words of 32 bits are shown in 64, with the same numbers; everything else of a
setting is shown as it is.
-/

namespace LedgerExport.Protocol

def SettingId.render : SettingId → Record.SettingId
  | .contractMaxSizeBytes => .contractMaxSizeBytes
  | .contractCompute => .contractCompute
  | .contractLedgerCost => .contractLedgerCost
  | .contractHistoricalData => .contractHistoricalData
  | .contractEvents => .contractEvents
  | .contractBandwidth => .contractBandwidth
  | .costParametersCpu => .costParametersCpu
  | .costParametersMemory => .costParametersMemory
  | .contractDataKeySizeBytes => .contractDataKeySizeBytes
  | .contractDataEntrySizeBytes => .contractDataEntrySizeBytes
  | .stateArchival => .stateArchival
  | .contractExecutionLanes => .contractExecutionLanes
  | .liveStateSizeWindow => .liveStateSizeWindow
  | .evictionIterator => .evictionIterator
  | .contractParallelCompute => .contractParallelCompute
  | .contractLedgerCostExt => .contractLedgerCostExt
  | .scpTiming => .scpTiming

/-- The number of a word of 32 bits in 64. -/
def widen (n : UInt32) : Int64 :=
  Int64.ofNat n.toNat

def CostParameters.render (p : CostParameters) : Record.CostParameters where
  constTerm := p.constTerm
  linearTerm := p.linearTerm

def Compute.render (p : Compute) : Record.Compute where
  ledgerMaxInstructions := p.ledgerMaxInstructions
  txMaxInstructions := p.txMaxInstructions
  feeRatePerInstructionsIncrement := p.feeRatePerInstructionsIncrement
  txMemoryLimit := widen p.txMemoryLimit

def LedgerCost.render (p : LedgerCost) : Record.LedgerCost where
  ledgerMaxDiskReadEntries := widen p.ledgerMaxDiskReadEntries
  ledgerMaxDiskReadBytes := widen p.ledgerMaxDiskReadBytes
  ledgerMaxWriteLedgerEntries := widen p.ledgerMaxWriteLedgerEntries
  ledgerMaxWriteBytes := widen p.ledgerMaxWriteBytes
  txMaxDiskReadEntries := widen p.txMaxDiskReadEntries
  txMaxDiskReadBytes := widen p.txMaxDiskReadBytes
  txMaxWriteLedgerEntries := widen p.txMaxWriteLedgerEntries
  txMaxWriteBytes := widen p.txMaxWriteBytes
  feeDiskReadLedgerEntry := p.feeDiskReadLedgerEntry
  feeWriteLedgerEntry := p.feeWriteLedgerEntry
  feeDiskRead1kb := p.feeDiskRead1kb
  stateTargetSizeBytes := p.stateTargetSizeBytes
  rentFee1kbStateSizeLow := p.rentFee1kbStateSizeLow
  rentFee1kbStateSizeHigh := p.rentFee1kbStateSizeHigh
  stateRentFeeGrowthFactor := widen p.stateRentFeeGrowthFactor

def Events.render (p : Events) : Record.Events where
  txMaxContractEventsSizeBytes := widen p.txMaxContractEventsSizeBytes
  feeContractEvents1kb := p.feeContractEvents1kb

def Bandwidth.render (p : Bandwidth) : Record.Bandwidth where
  ledgerMaxTxsSizeBytes := widen p.ledgerMaxTxsSizeBytes
  txMaxSizeBytes := widen p.txMaxSizeBytes
  feeTxSize1kb := p.feeTxSize1kb

def StateArchival.render (p : StateArchival) : Record.StateArchival where
  maxEntryTtl := widen p.maxEntryTtl
  minPersistentTtl := widen p.minPersistentTtl
  minTemporaryTtl := widen p.minTemporaryTtl
  persistentRentRateDenominator := p.persistentRentRateDenominator
  tempRentRateDenominator := p.tempRentRateDenominator
  maxEntriesToArchive := widen p.maxEntriesToArchive
  windowSampleSize := widen p.windowSampleSize
  windowSamplePeriod := widen p.windowSamplePeriod
  evictionScanSize := widen p.evictionScanSize
  startingEvictionScanLevel := widen p.startingEvictionScanLevel

def Eviction.render (p : Eviction) : Record.Eviction where
  bucketListLevel := widen p.bucketListLevel
  isCurrBucket := p.isCurrBucket
  bucketFileOffset := p.bucketFileOffset

def LedgerCostMore.render (p : LedgerCostMore) : Record.LedgerCostMore where
  txMaxFootprintEntries := widen p.txMaxFootprintEntries
  feeWrite1kb := p.feeWrite1kb

def Timing.render (p : Timing) : Record.Timing where
  ledgerTargetCloseTimeMilliseconds := widen p.ledgerTargetCloseTimeMilliseconds
  nominationTimeoutInitialMilliseconds := widen p.nominationTimeoutInitialMilliseconds
  nominationTimeoutIncrementMilliseconds := widen p.nominationTimeoutIncrementMilliseconds
  ballotTimeoutInitialMilliseconds := widen p.ballotTimeoutInitialMilliseconds
  ballotTimeoutIncrementMilliseconds := widen p.ballotTimeoutIncrementMilliseconds

/-- A setting as it is printed. -/
def Setting.render : Setting → Record.Setting
  | .contractMaxSizeBytes bytes => .contractMaxSizeBytes (widen bytes)
  | .contractCompute limits => .contractCompute limits.render
  | .contractLedgerCost limits => .contractLedgerCost limits.render
  | .contractHistoricalData fee => .contractHistoricalData fee
  | .contractEvents limits => .contractEvents limits.render
  | .contractBandwidth limits => .contractBandwidth limits.render
  | .costParametersCpu parameters => .costParametersCpu (parameters.map (·.render))
  | .costParametersMemory parameters => .costParametersMemory (parameters.map (·.render))
  | .contractDataKeySizeBytes bytes => .contractDataKeySizeBytes (widen bytes)
  | .contractDataEntrySizeBytes bytes => .contractDataEntrySizeBytes (widen bytes)
  | .stateArchival limits => .stateArchival limits.render
  | .contractExecutionLanes count => .contractExecutionLanes (widen count)
  | .liveStateSizeWindow sizes => .liveStateSizeWindow sizes
  | .evictionIterator limits => .evictionIterator limits.render
  | .contractParallelCompute clusters => .contractParallelCompute (widen clusters)
  | .contractLedgerCostExt limits => .contractLedgerCostExt limits.render
  | .scpTiming limits => .scpTiming limits.render

end LedgerExport.Protocol
