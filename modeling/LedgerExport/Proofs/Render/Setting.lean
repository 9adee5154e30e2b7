import Mathlib.Data.List.Basic
import LedgerExport.Render.Setting

/-!
# Wider words keep every number

A setting is shown as the setting of the same kind with the same numbers, only
in wider words. To say so without the functions that show it, the numbers of a
setting are listed one by one before and after, both times in the order of the
schema.
-/

namespace LedgerExport

/-! ## The numbers of a setting

A flag counts as one or zero. -/

namespace Protocol

def CostParameters.numbers (s : CostParameters) : List Int :=
  [s.constTerm.toInt, s.linearTerm.toInt]

def Compute.numbers (s : Compute) : List Int :=
  [s.ledgerMaxInstructions.toInt, s.txMaxInstructions.toInt,
   s.feeRatePerInstructionsIncrement.toInt, s.txMemoryLimit.toNat]

def LedgerCost.numbers (s : LedgerCost) : List Int :=
  [s.ledgerMaxDiskReadEntries.toNat, s.ledgerMaxDiskReadBytes.toNat,
   s.ledgerMaxWriteLedgerEntries.toNat, s.ledgerMaxWriteBytes.toNat,
   s.txMaxDiskReadEntries.toNat, s.txMaxDiskReadBytes.toNat,
   s.txMaxWriteLedgerEntries.toNat, s.txMaxWriteBytes.toNat,
   s.feeDiskReadLedgerEntry.toInt, s.feeWriteLedgerEntry.toInt, s.feeDiskRead1kb.toInt,
   s.stateTargetSizeBytes.toInt, s.rentFee1kbStateSizeLow.toInt,
   s.rentFee1kbStateSizeHigh.toInt, s.stateRentFeeGrowthFactor.toNat]

def Events.numbers (s : Events) : List Int :=
  [s.txMaxContractEventsSizeBytes.toNat, s.feeContractEvents1kb.toInt]

def Bandwidth.numbers (s : Bandwidth) : List Int :=
  [s.ledgerMaxTxsSizeBytes.toNat, s.txMaxSizeBytes.toNat, s.feeTxSize1kb.toInt]

def StateArchival.numbers (s : StateArchival) : List Int :=
  [s.maxEntryTtl.toNat, s.minTemporaryTtl.toNat, s.minPersistentTtl.toNat,
   s.persistentRentRateDenominator.toInt, s.tempRentRateDenominator.toInt,
   s.maxEntriesToArchive.toNat, s.windowSampleSize.toNat, s.windowSamplePeriod.toNat,
   s.evictionScanSize.toNat, s.startingEvictionScanLevel.toNat]

def Eviction.numbers (s : Eviction) : List Int :=
  [s.bucketListLevel.toNat, s.isCurrBucket.toNat, s.bucketFileOffset.toNat]

def LedgerCostMore.numbers (s : LedgerCostMore) : List Int :=
  [s.txMaxFootprintEntries.toNat, s.feeWrite1kb.toInt]

def Timing.numbers (s : Timing) : List Int :=
  [s.ledgerTargetCloseTimeMilliseconds.toNat, s.nominationTimeoutInitialMilliseconds.toNat,
   s.nominationTimeoutIncrementMilliseconds.toNat, s.ballotTimeoutInitialMilliseconds.toNat,
   s.ballotTimeoutIncrementMilliseconds.toNat]

/-- All numbers of a setting. -/
def Setting.numbers : Setting → List Int
  | .contractMaxSizeBytes n => [n.toNat]
  | .contractCompute s => s.numbers
  | .contractLedgerCost s => s.numbers
  | .contractHistoricalData n => [n.toInt]
  | .contractEvents s => s.numbers
  | .contractBandwidth s => s.numbers
  | .costParametersCpu parameters => parameters.flatMap (·.numbers)
  | .costParametersMemory parameters => parameters.flatMap (·.numbers)
  | .contractDataKeySizeBytes n => [n.toNat]
  | .contractDataEntrySizeBytes n => [n.toNat]
  | .stateArchival s => s.numbers
  | .contractExecutionLanes n => [n.toNat]
  | .liveStateSizeWindow sizes => sizes.map fun n => n.toNat
  | .evictionIterator s => s.numbers
  | .contractParallelCompute n => [n.toNat]
  | .contractLedgerCostExt s => s.numbers
  | .scpTiming s => s.numbers

end Protocol

namespace Record

def CostParameters.numbers (s : CostParameters) : List Int :=
  [s.constTerm.toInt, s.linearTerm.toInt]

def Compute.numbers (s : Compute) : List Int :=
  [s.ledgerMaxInstructions.toInt, s.txMaxInstructions.toInt,
   s.feeRatePerInstructionsIncrement.toInt, s.txMemoryLimit.toInt]

def LedgerCost.numbers (s : LedgerCost) : List Int :=
  [s.ledgerMaxDiskReadEntries.toInt, s.ledgerMaxDiskReadBytes.toInt,
   s.ledgerMaxWriteLedgerEntries.toInt, s.ledgerMaxWriteBytes.toInt,
   s.txMaxDiskReadEntries.toInt, s.txMaxDiskReadBytes.toInt,
   s.txMaxWriteLedgerEntries.toInt, s.txMaxWriteBytes.toInt,
   s.feeDiskReadLedgerEntry.toInt, s.feeWriteLedgerEntry.toInt, s.feeDiskRead1kb.toInt,
   s.stateTargetSizeBytes.toInt, s.rentFee1kbStateSizeLow.toInt,
   s.rentFee1kbStateSizeHigh.toInt, s.stateRentFeeGrowthFactor.toInt]

def Events.numbers (s : Events) : List Int :=
  [s.txMaxContractEventsSizeBytes.toInt, s.feeContractEvents1kb.toInt]

def Bandwidth.numbers (s : Bandwidth) : List Int :=
  [s.ledgerMaxTxsSizeBytes.toInt, s.txMaxSizeBytes.toInt, s.feeTxSize1kb.toInt]

/-- The record itself names the lifetime of persistent entries first. -/
def StateArchival.numbers (s : StateArchival) : List Int :=
  [s.maxEntryTtl.toInt, s.minTemporaryTtl.toInt, s.minPersistentTtl.toInt,
   s.persistentRentRateDenominator.toInt, s.tempRentRateDenominator.toInt,
   s.maxEntriesToArchive.toInt, s.windowSampleSize.toInt, s.windowSamplePeriod.toInt,
   s.evictionScanSize.toInt, s.startingEvictionScanLevel.toInt]

def Eviction.numbers (s : Eviction) : List Int :=
  [s.bucketListLevel.toInt, s.isCurrBucket.toNat, s.bucketFileOffset.toNat]

def LedgerCostMore.numbers (s : LedgerCostMore) : List Int :=
  [s.txMaxFootprintEntries.toInt, s.feeWrite1kb.toInt]

def Timing.numbers (s : Timing) : List Int :=
  [s.ledgerTargetCloseTimeMilliseconds.toInt, s.nominationTimeoutInitialMilliseconds.toInt,
   s.nominationTimeoutIncrementMilliseconds.toInt, s.ballotTimeoutInitialMilliseconds.toInt,
   s.ballotTimeoutIncrementMilliseconds.toInt]

/-- All numbers of a printed setting. -/
def Setting.numbers : Setting → List Int
  | .contractMaxSizeBytes n => [n.toInt]
  | .contractCompute s => s.numbers
  | .contractLedgerCost s => s.numbers
  | .contractHistoricalData n => [n.toInt]
  | .contractEvents s => s.numbers
  | .contractBandwidth s => s.numbers
  | .costParametersCpu parameters => parameters.flatMap (·.numbers)
  | .costParametersMemory parameters => parameters.flatMap (·.numbers)
  | .contractDataKeySizeBytes n => [n.toInt]
  | .contractDataEntrySizeBytes n => [n.toInt]
  | .stateArchival s => s.numbers
  | .contractExecutionLanes n => [n.toInt]
  | .liveStateSizeWindow sizes => sizes.map fun n => n.toNat
  | .evictionIterator s => s.numbers
  | .contractParallelCompute n => [n.toInt]
  | .contractLedgerCostExt s => s.numbers
  | .scpTiming s => s.numbers

end Record

namespace Protocol

/-! ## Names and words -/

theorem SettingId.render_injective : Function.Injective SettingId.render := by
  intro id id' h
  cases id <;> cases id' <;> first | rfl | cases h

@[simp] theorem toInt_widen (n : UInt32) : (widen n).toInt = n.toNat := by
  have hlt := n.toNat_lt
  rw [widen, Int64.toInt_ofNat_of_lt]
  omega

@[simp] theorem widen_inj {m n : UInt32} : widen m = widen n ↔ m = n := by
  rw [← Int64.toInt_inj, toInt_widen, toInt_widen, Int.ofNat_inj, UInt32.toNat_inj]

/-! ## Parts -/

theorem CostParameters.render_injective : Function.Injective CostParameters.render := by
  rintro ⟨⟩ ⟨⟩ h
  simpa [render] using h

theorem Compute.render_injective : Function.Injective Compute.render := by
  rintro ⟨⟩ ⟨⟩ h
  simpa [render] using h

theorem LedgerCost.render_injective : Function.Injective LedgerCost.render := by
  rintro ⟨⟩ ⟨⟩ h
  simpa [render] using h

theorem Events.render_injective : Function.Injective Events.render := by
  rintro ⟨⟩ ⟨⟩ h
  simpa [render] using h

theorem Bandwidth.render_injective : Function.Injective Bandwidth.render := by
  rintro ⟨⟩ ⟨⟩ h
  simpa [render] using h

theorem StateArchival.render_injective : Function.Injective StateArchival.render := by
  rintro ⟨⟩ ⟨⟩ h
  simpa [render, and_left_comm] using h

theorem Eviction.render_injective : Function.Injective Eviction.render := by
  rintro ⟨⟩ ⟨⟩ h
  simpa [render] using h

theorem LedgerCostMore.render_injective : Function.Injective LedgerCostMore.render := by
  rintro ⟨⟩ ⟨⟩ h
  simpa [render] using h

theorem Timing.render_injective : Function.Injective Timing.render := by
  rintro ⟨⟩ ⟨⟩ h
  simpa [render] using h

@[simp] theorem CostParameters.numbers_render (s : CostParameters) :
    s.render.numbers = s.numbers := by
  simp [render, numbers, Record.CostParameters.numbers]

@[simp] theorem Compute.numbers_render (s : Compute) : s.render.numbers = s.numbers := by
  simp [render, numbers, Record.Compute.numbers]

@[simp] theorem LedgerCost.numbers_render (s : LedgerCost) : s.render.numbers = s.numbers := by
  simp [render, numbers, Record.LedgerCost.numbers]

@[simp] theorem Events.numbers_render (s : Events) : s.render.numbers = s.numbers := by
  simp [render, numbers, Record.Events.numbers]

@[simp] theorem Bandwidth.numbers_render (s : Bandwidth) : s.render.numbers = s.numbers := by
  simp [render, numbers, Record.Bandwidth.numbers]

@[simp] theorem StateArchival.numbers_render (s : StateArchival) :
    s.render.numbers = s.numbers := by
  simp [render, numbers, Record.StateArchival.numbers]

@[simp] theorem Eviction.numbers_render (s : Eviction) : s.render.numbers = s.numbers := by
  simp [render, numbers, Record.Eviction.numbers]

@[simp] theorem LedgerCostMore.numbers_render (s : LedgerCostMore) :
    s.render.numbers = s.numbers := by
  simp [render, numbers, Record.LedgerCostMore.numbers]

@[simp] theorem Timing.numbers_render (s : Timing) : s.render.numbers = s.numbers := by
  simp [render, numbers, Record.Timing.numbers]

/-! ## Settings -/

namespace Setting

theorem render_injective : Function.Injective render := by
  intro s s' h
  cases s with
  | contractMaxSizeBytes bytes =>
      cases s' with
      | contractMaxSizeBytes bytes' => rw [widen_inj.mp (Record.Setting.contractMaxSizeBytes.inj h)]
      | _ => cases h
  | contractCompute limits =>
      cases s' with
      | contractCompute limits' =>
          rw [Compute.render_injective (Record.Setting.contractCompute.inj h)]
      | _ => cases h
  | contractLedgerCost limits =>
      cases s' with
      | contractLedgerCost limits' =>
          rw [LedgerCost.render_injective (Record.Setting.contractLedgerCost.inj h)]
      | _ => cases h
  | contractHistoricalData fee =>
      cases s' with
      | contractHistoricalData fee' => rw [Record.Setting.contractHistoricalData.inj h]
      | _ => cases h
  | contractEvents limits =>
      cases s' with
      | contractEvents limits' => rw [Events.render_injective (Record.Setting.contractEvents.inj h)]
      | _ => cases h
  | contractBandwidth limits =>
      cases s' with
      | contractBandwidth limits' =>
          rw [Bandwidth.render_injective (Record.Setting.contractBandwidth.inj h)]
      | _ => cases h
  | costParametersCpu parameters =>
      cases s' with
      | costParametersCpu parameters' =>
          rw [CostParameters.render_injective.list_map (Record.Setting.costParametersCpu.inj h)]
      | _ => cases h
  | costParametersMemory parameters =>
      cases s' with
      | costParametersMemory parameters' =>
          rw [CostParameters.render_injective.list_map (Record.Setting.costParametersMemory.inj h)]
      | _ => cases h
  | contractDataKeySizeBytes bytes =>
      cases s' with
      | contractDataKeySizeBytes bytes' =>
          rw [widen_inj.mp (Record.Setting.contractDataKeySizeBytes.inj h)]
      | _ => cases h
  | contractDataEntrySizeBytes bytes =>
      cases s' with
      | contractDataEntrySizeBytes bytes' =>
          rw [widen_inj.mp (Record.Setting.contractDataEntrySizeBytes.inj h)]
      | _ => cases h
  | stateArchival limits =>
      cases s' with
      | stateArchival limits' =>
          rw [StateArchival.render_injective (Record.Setting.stateArchival.inj h)]
      | _ => cases h
  | contractExecutionLanes count =>
      cases s' with
      | contractExecutionLanes count' =>
          rw [widen_inj.mp (Record.Setting.contractExecutionLanes.inj h)]
      | _ => cases h
  | liveStateSizeWindow sizes =>
      cases s' with
      | liveStateSizeWindow sizes' => rw [Record.Setting.liveStateSizeWindow.inj h]
      | _ => cases h
  | evictionIterator limits =>
      cases s' with
      | evictionIterator limits' =>
          rw [Eviction.render_injective (Record.Setting.evictionIterator.inj h)]
      | _ => cases h
  | contractParallelCompute clusters =>
      cases s' with
      | contractParallelCompute clusters' =>
          rw [widen_inj.mp (Record.Setting.contractParallelCompute.inj h)]
      | _ => cases h
  | contractLedgerCostExt limits =>
      cases s' with
      | contractLedgerCostExt limits' =>
          rw [LedgerCostMore.render_injective (Record.Setting.contractLedgerCostExt.inj h)]
      | _ => cases h
  | scpTiming limits =>
      cases s' with
      | scpTiming limits' => rw [Timing.render_injective (Record.Setting.scpTiming.inj h)]
      | _ => cases h

theorem ctorIdx_render (s : Setting) : s.render.ctorIdx = s.ctorIdx := by
  cases s <;> rfl

theorem numbers_render (s : Setting) : s.render.numbers = s.numbers := by
  cases s <;> simp [render, numbers, Record.Setting.numbers, List.flatMap_map]

end Setting

end Protocol

end LedgerExport
