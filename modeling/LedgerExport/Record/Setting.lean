import LedgerExport.Json.Form

/-!
# Network settings as records

A setting is printed with all its numbers in 64 bits. Settings that have named
parts are objects of them, the others are their number.
-/

namespace LedgerExport.Record

open Form

/-! ## Names -/

/-- The name of a setting. -/
inductive SettingId
  | contractMaxSizeBytes
  | contractCompute
  | contractLedgerCost
  | contractHistoricalData
  | contractEvents
  | contractBandwidth
  | costParametersCpu
  | costParametersMemory
  | contractDataKeySizeBytes
  | contractDataEntrySizeBytes
  | stateArchival
  | contractExecutionLanes
  | liveStateSizeWindow
  | evictionIterator
  | contractParallelCompute
  | contractLedgerCostExt
  | scpTiming
deriving DecidableEq

namespace SettingId

/-- All names. -/
def members : List SettingId :=
  [.contractMaxSizeBytes, .contractCompute, .contractLedgerCost, .contractHistoricalData,
   .contractEvents, .contractBandwidth, .costParametersCpu, .costParametersMemory,
   .contractDataKeySizeBytes, .contractDataEntrySizeBytes, .stateArchival,
   .contractExecutionLanes, .liveStateSizeWindow, .evictionIterator, .contractParallelCompute,
   .contractLedgerCostExt, .scpTiming]

/-- The printed name of a setting. -/
def name : SettingId → String
  | .contractMaxSizeBytes => "contract_max_size_bytes"
  | .contractCompute => "contract_compute_v0"
  | .contractLedgerCost => "contract_ledger_cost_v0"
  | .contractHistoricalData => "contract_historical_data_v0"
  | .contractEvents => "contract_events_v0"
  | .contractBandwidth => "contract_bandwidth_v0"
  | .costParametersCpu => "contract_cost_params_cpu_instructions"
  | .costParametersMemory => "contract_cost_params_memory_bytes"
  | .contractDataKeySizeBytes => "contract_data_key_size_bytes"
  | .contractDataEntrySizeBytes => "contract_data_entry_size_bytes"
  | .stateArchival => "state_archival"
  | .contractExecutionLanes => "contract_execution_lanes"
  | .liveStateSizeWindow => "live_soroban_state_size_window"
  | .evictionIterator => "eviction_iterator"
  | .contractParallelCompute => "contract_parallel_compute_v0"
  | .contractLedgerCostExt => "contract_ledger_cost_ext_v0"
  | .scpTiming => "scp_timing"

def form : Form SettingId :=
  enumeration members name

end SettingId

/-! ## Parts -/

/-- A constant and a factor of the cost model. -/
structure CostParameters where
  constTerm : Int64
  linearTerm : Int64

def CostParameters.form : Form CostParameters :=
  record <| Fields.make CostParameters.mk
    |>.field "const_term" int64 (·.constTerm)
    |>.field "linear_term" int64 (·.linearTerm)

/-- Limits and fees of computation. -/
structure Compute where
  ledgerMaxInstructions : Int64
  txMaxInstructions : Int64
  feeRatePerInstructionsIncrement : Int64
  txMemoryLimit : Int64

def Compute.fields : Fields Compute Compute :=
  Fields.make Compute.mk
    |>.field "ledger_max_instructions" int64 (·.ledgerMaxInstructions)
    |>.field "tx_max_instructions" int64 (·.txMaxInstructions)
    |>.field "fee_rate_per_instructions_increment" int64 (·.feeRatePerInstructionsIncrement)
    |>.field "tx_memory_limit" int64 (·.txMemoryLimit)

/-- Limits and fees of reading and writing entries. -/
structure LedgerCost where
  ledgerMaxDiskReadEntries : Int64
  ledgerMaxDiskReadBytes : Int64
  ledgerMaxWriteLedgerEntries : Int64
  ledgerMaxWriteBytes : Int64
  txMaxDiskReadEntries : Int64
  txMaxDiskReadBytes : Int64
  txMaxWriteLedgerEntries : Int64
  txMaxWriteBytes : Int64
  feeDiskReadLedgerEntry : Int64
  feeWriteLedgerEntry : Int64
  feeDiskRead1kb : Int64
  stateTargetSizeBytes : Int64
  rentFee1kbStateSizeLow : Int64
  rentFee1kbStateSizeHigh : Int64
  stateRentFeeGrowthFactor : Int64

def LedgerCost.fields : Fields LedgerCost LedgerCost :=
  Fields.make LedgerCost.mk
    |>.field "ledger_max_disk_read_entries" int64 (·.ledgerMaxDiskReadEntries)
    |>.field "ledger_max_disk_read_bytes" int64 (·.ledgerMaxDiskReadBytes)
    |>.field "ledger_max_write_ledger_entries" int64 (·.ledgerMaxWriteLedgerEntries)
    |>.field "ledger_max_write_bytes" int64 (·.ledgerMaxWriteBytes)
    |>.field "tx_max_disk_read_entries" int64 (·.txMaxDiskReadEntries)
    |>.field "tx_max_disk_read_bytes" int64 (·.txMaxDiskReadBytes)
    |>.field "tx_max_write_ledger_entries" int64 (·.txMaxWriteLedgerEntries)
    |>.field "tx_max_write_bytes" int64 (·.txMaxWriteBytes)
    |>.field "fee_disk_read_ledger_entry" int64 (·.feeDiskReadLedgerEntry)
    |>.field "fee_write_ledger_entry" int64 (·.feeWriteLedgerEntry)
    |>.field "fee_disk_read_1kb" int64 (·.feeDiskRead1kb)
    |>.field "soroban_state_target_size_bytes" int64 (·.stateTargetSizeBytes)
    |>.field "rent_fee_1kb_soroban_state_size_low" int64 (·.rentFee1kbStateSizeLow)
    |>.field "rent_fee_1kb_soroban_state_size_high" int64 (·.rentFee1kbStateSizeHigh)
    |>.field "soroban_state_rent_fee_growth_factor" int64 (·.stateRentFeeGrowthFactor)

/-- Limits and fees of events. -/
structure Events where
  txMaxContractEventsSizeBytes : Int64
  feeContractEvents1kb : Int64

def Events.fields : Fields Events Events :=
  Fields.make Events.mk
    |>.field "tx_max_contract_events_size_bytes" int64 (·.txMaxContractEventsSizeBytes)
    |>.field "fee_contract_events_1kb" int64 (·.feeContractEvents1kb)

/-- Limits and fees of transaction sizes. -/
structure Bandwidth where
  ledgerMaxTxsSizeBytes : Int64
  txMaxSizeBytes : Int64
  feeTxSize1kb : Int64

def Bandwidth.fields : Fields Bandwidth Bandwidth :=
  Fields.make Bandwidth.mk
    |>.field "ledger_max_txs_size_bytes" int64 (·.ledgerMaxTxsSizeBytes)
    |>.field "tx_max_size_bytes" int64 (·.txMaxSizeBytes)
    |>.field "fee_tx_size_1kb" int64 (·.feeTxSize1kb)

/-- How long entries live and what it costs. -/
structure StateArchival where
  maxEntryTtl : Int64
  minPersistentTtl : Int64
  minTemporaryTtl : Int64
  persistentRentRateDenominator : Int64
  tempRentRateDenominator : Int64
  maxEntriesToArchive : Int64
  windowSampleSize : Int64
  windowSamplePeriod : Int64
  evictionScanSize : Int64
  startingEvictionScanLevel : Int64

def StateArchival.fields : Fields StateArchival StateArchival :=
  Fields.make StateArchival.mk
    |>.field "max_entry_ttl" int64 (·.maxEntryTtl)
    |>.field "min_persistent_ttl" int64 (·.minPersistentTtl)
    |>.field "min_temporary_ttl" int64 (·.minTemporaryTtl)
    |>.field "persistent_rent_rate_denominator" int64 (·.persistentRentRateDenominator)
    |>.field "temp_rent_rate_denominator" int64 (·.tempRentRateDenominator)
    |>.field "max_entries_to_archive" int64 (·.maxEntriesToArchive)
    |>.field "live_soroban_state_size_window_sample_size" int64 (·.windowSampleSize)
    |>.field "live_soroban_state_size_window_sample_period" int64 (·.windowSamplePeriod)
    |>.field "eviction_scan_size" int64 (·.evictionScanSize)
    |>.field "starting_eviction_scan_level" int64 (·.startingEvictionScanLevel)

/-- Where the scan for entries to evict stands. -/
structure Eviction where
  bucketListLevel : Int64
  isCurrBucket : Bool
  bucketFileOffset : UInt64

def Eviction.fields : Fields Eviction Eviction :=
  Fields.make Eviction.mk
    |>.field "bucket_list_level" int64 (·.bucketListLevel)
    |>.field "is_curr_bucket" bool (·.isCurrBucket)
    |>.field "bucket_file_offset" uint64 (·.bucketFileOffset)

/-- Further limits and fees of entries. -/
structure LedgerCostMore where
  txMaxFootprintEntries : Int64
  feeWrite1kb : Int64

def LedgerCostMore.fields : Fields LedgerCostMore LedgerCostMore :=
  Fields.make LedgerCostMore.mk
    |>.field "tx_max_footprint_entries" int64 (·.txMaxFootprintEntries)
    |>.field "fee_write_1kb" int64 (·.feeWrite1kb)

/-- The timing of the consensus. -/
structure Timing where
  ledgerTargetCloseTimeMilliseconds : Int64
  nominationTimeoutInitialMilliseconds : Int64
  nominationTimeoutIncrementMilliseconds : Int64
  ballotTimeoutInitialMilliseconds : Int64
  ballotTimeoutIncrementMilliseconds : Int64

def Timing.fields : Fields Timing Timing :=
  Fields.make Timing.mk
    |>.field "ledger_target_close_time_milliseconds" int64 (·.ledgerTargetCloseTimeMilliseconds)
    |>.field "nomination_timeout_initial_milliseconds" int64
      (·.nominationTimeoutInitialMilliseconds)
    |>.field "nomination_timeout_increment_milliseconds" int64
      (·.nominationTimeoutIncrementMilliseconds)
    |>.field "ballot_timeout_initial_milliseconds" int64 (·.ballotTimeoutInitialMilliseconds)
    |>.field "ballot_timeout_increment_milliseconds" int64 (·.ballotTimeoutIncrementMilliseconds)

/-- One named number behind a kind. -/
def single (name : String) : Fields Int64 Int64 :=
  Fields.make id |>.field name int64 id

/-! ## Settings -/

/-- A setting as it is printed. -/
inductive Setting
  | contractMaxSizeBytes (bytes : Int64)
  | contractCompute (limits : Compute)
  | contractLedgerCost (limits : LedgerCost)
  | contractHistoricalData (feeHistorical1kb : Int64)
  | contractEvents (limits : Events)
  | contractBandwidth (limits : Bandwidth)
  | costParametersCpu (parameters : List CostParameters)
  | costParametersMemory (parameters : List CostParameters)
  | contractDataKeySizeBytes (bytes : Int64)
  | contractDataEntrySizeBytes (bytes : Int64)
  | stateArchival (limits : StateArchival)
  | contractExecutionLanes (ledgerMaxTxCount : Int64)
  | liveStateSizeWindow (sizes : List UInt64)
  | evictionIterator (limits : Eviction)
  | contractParallelCompute (ledgerMaxDependentTxClusters : Int64)
  | contractLedgerCostExt (limits : LedgerCostMore)
  | scpTiming (limits : Timing)

def Setting.form : Form Setting :=
  tagged
    (fun
      | .contractMaxSizeBytes v => ⟨"contract_max_size_bytes", value int64, v⟩
      | .contractCompute v => ⟨"contract_compute_v0", named Compute.fields, v⟩
      | .contractLedgerCost v => ⟨"contract_ledger_cost_v0", named LedgerCost.fields, v⟩
      | .contractHistoricalData v =>
        ⟨"contract_historical_data_v0", named (single "fee_historical_1kb"), v⟩
      | .contractEvents v => ⟨"contract_events_v0", named Events.fields, v⟩
      | .contractBandwidth v => ⟨"contract_bandwidth_v0", named Bandwidth.fields, v⟩
      | .costParametersCpu v =>
        ⟨"contract_cost_params_cpu_instructions", value (list CostParameters.form), v⟩
      | .costParametersMemory v =>
        ⟨"contract_cost_params_memory_bytes", value (list CostParameters.form), v⟩
      | .contractDataKeySizeBytes v => ⟨"contract_data_key_size_bytes", value int64, v⟩
      | .contractDataEntrySizeBytes v => ⟨"contract_data_entry_size_bytes", value int64, v⟩
      | .stateArchival v => ⟨"state_archival", named StateArchival.fields, v⟩
      | .contractExecutionLanes v =>
        ⟨"contract_execution_lanes", named (single "ledger_max_tx_count"), v⟩
      | .liveStateSizeWindow v => ⟨"live_soroban_state_size_window", value (list uint64), v⟩
      | .evictionIterator v => ⟨"eviction_iterator", named Eviction.fields, v⟩
      | .contractParallelCompute v =>
        ⟨"contract_parallel_compute_v0", named (single "ledger_max_dependent_tx_clusters"), v⟩
      | .contractLedgerCostExt v => ⟨"contract_ledger_cost_ext_v0", named LedgerCostMore.fields, v⟩
      | .scpTiming v => ⟨"scp_timing", named Timing.fields, v⟩)
    (fun
      | "contract_max_size_bytes" => (value int64).into .contractMaxSizeBytes
      | "contract_compute_v0" => (named Compute.fields).into .contractCompute
      | "contract_ledger_cost_v0" => (named LedgerCost.fields).into .contractLedgerCost
      | "contract_historical_data_v0" =>
        (named (single "fee_historical_1kb")).into .contractHistoricalData
      | "contract_events_v0" => (named Events.fields).into .contractEvents
      | "contract_bandwidth_v0" => (named Bandwidth.fields).into .contractBandwidth
      | "contract_cost_params_cpu_instructions" =>
        (value (list CostParameters.form)).into .costParametersCpu
      | "contract_cost_params_memory_bytes" =>
        (value (list CostParameters.form)).into .costParametersMemory
      | "contract_data_key_size_bytes" => (value int64).into .contractDataKeySizeBytes
      | "contract_data_entry_size_bytes" => (value int64).into .contractDataEntrySizeBytes
      | "state_archival" => (named StateArchival.fields).into .stateArchival
      | "contract_execution_lanes" =>
        (named (single "ledger_max_tx_count")).into .contractExecutionLanes
      | "live_soroban_state_size_window" => (value (list uint64)).into .liveStateSizeWindow
      | "eviction_iterator" => (named Eviction.fields).into .evictionIterator
      | "contract_parallel_compute_v0" =>
        (named (single "ledger_max_dependent_tx_clusters")).into .contractParallelCompute
      | "contract_ledger_cost_ext_v0" => (named LedgerCostMore.fields).into .contractLedgerCostExt
      | "scp_timing" => (named Timing.fields).into .scpTiming
      | _ => fun _ => none)

end LedgerExport.Record
