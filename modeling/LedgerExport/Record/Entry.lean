import LedgerExport.Record.ScVal
import LedgerExport.Record.Setting

/-!
# Ledger entries as records

An entry without the nesting of its extensions: what an extension adds is a
field that is absent where the entry lacks the extension.
-/

namespace LedgerExport.Record

open Form

/-! ## Accounts -/

/-- The weights of the master key and of the three levels. -/
structure Thresholds where
  masterWeight : UInt8
  low : UInt8
  medium : UInt8
  high : UInt8

def Thresholds.form : Form Thresholds :=
  record <| Fields.make Thresholds.mk
    |>.field "master_weight" uint8 (·.masterWeight)
    |>.field "low" uint8 (·.low)
    |>.field "medium" uint8 (·.medium)
    |>.field "high" uint8 (·.high)

/-- An account. -/
structure AccountEntry where
  account : String
  balance : Int64
  sequence : Int64
  subEntries : UInt32
  inflationDest : Option String
  flags : UInt32
  homeDomain : String
  thresholds : Thresholds
  signers : List Signer
  liabilities : Option Liabilities
  sponsored : Option UInt32
  sponsoring : Option UInt32
  signerSponsors : Option (List (Option String))
  sequenceLedger : Option UInt32
  sequenceTime : Option UInt64

def AccountEntry.form : Form AccountEntry :=
  record <| Fields.make AccountEntry.mk
    |>.field "account_id" text (·.account)
    |>.field "balance" int64 (·.balance)
    |>.field "seq_num" int64 (·.sequence)
    |>.field "num_sub_entries" uint32 (·.subEntries)
    |>.field "inflation_dest" (option text) (·.inflationDest)
    |>.field "flags" uint32 (·.flags)
    |>.field "home_domain" text (·.homeDomain)
    |>.field "thresholds" Thresholds.form (·.thresholds)
    |>.field "signers" (list Signer.form) (·.signers)
    |>.field "liabilities" (option Liabilities.form) (·.liabilities)
    |>.field "num_sponsored" (option uint32) (·.sponsored)
    |>.field "num_sponsoring" (option uint32) (·.sponsoring)
    |>.field "signer_sponsoring_ids" (option (list (option text))) (·.signerSponsors)
    |>.field "seq_ledger" (option uint32) (·.sequenceLedger)
    |>.field "seq_time" (option uint64) (·.sequenceTime)

/-! ## Trust lines, offers and data -/

/-- What an account holds of an asset. -/
structure TrustLineEntry where
  account : String
  asset : TrustLineAsset
  balance : Int64
  limit : Int64
  flags : UInt32
  liabilities : Option Liabilities
  poolUseCount : Option Int32

def TrustLineEntry.form : Form TrustLineEntry :=
  record <| Fields.make TrustLineEntry.mk
    |>.field "account_id" text (·.account)
    |>.field "asset" TrustLineAsset.form (·.asset)
    |>.field "balance" int64 (·.balance)
    |>.field "limit" int64 (·.limit)
    |>.field "flags" uint32 (·.flags)
    |>.field "liabilities" (option Liabilities.form) (·.liabilities)
    |>.field "liquidity_pool_use_count" (option int32) (·.poolUseCount)

/-- An offer to give one asset for another. -/
structure OfferEntry where
  seller : String
  offerId : Int64
  selling : Asset
  buying : Asset
  amount : Int64
  price : Price
  flags : UInt32

def OfferEntry.form : Form OfferEntry :=
  record <| Fields.make OfferEntry.mk
    |>.field "seller_id" text (·.seller)
    |>.field "offer_id" int64 (·.offerId)
    |>.field "selling" Asset.form (·.selling)
    |>.field "buying" Asset.form (·.buying)
    |>.field "amount" int64 (·.amount)
    |>.field "price" Price.form (·.price)
    |>.field "flags" uint32 (·.flags)

/-- A named value that an account keeps. -/
structure DataEntry where
  account : String
  name : String
  value : String

def DataEntry.form : Form DataEntry :=
  record <| Fields.make DataEntry.mk
    |>.field "account_id" text (·.account)
    |>.field "data_name" text (·.name)
    |>.field "data_value" text (·.value)

/-! ## Claimable balances and pools -/

/-- An amount put aside for claimants. -/
structure BalanceEntry where
  balance : String
  claimants : List Claimant
  asset : Asset
  amount : Int64
  flags : Option UInt32

def BalanceEntry.form : Form BalanceEntry :=
  record <| Fields.make BalanceEntry.mk
    |>.field "balance_id" text (·.balance)
    |>.field "claimants" (list Claimant.form) (·.claimants)
    |>.field "asset" Asset.form (·.asset)
    |>.field "amount" int64 (·.amount)
    |>.field "flags" (option uint32) (·.flags)

/-- A pool of two assets and its shares. -/
structure PoolState where
  parameters : PoolParameters
  reserveA : Int64
  reserveB : Int64
  totalPoolShares : Int64
  poolSharesTrustLineCount : Int64

/-- A pool is of the only kind there is. -/
def PoolState.form : Form PoolState :=
  let state := record <| Fields.make PoolState.mk
    |>.field "params" PoolParameters.form (·.parameters)
    |>.field "reserve_a" int64 (·.reserveA)
    |>.field "reserve_b" int64 (·.reserveB)
    |>.field "total_pool_shares" int64 (·.totalPoolShares)
    |>.field "pool_shares_trust_line_count" int64 (·.poolSharesTrustLineCount)
  tagged
    (fun pool => ⟨"constant_product", value state, pool⟩)
    (fun
      | "constant_product" => (value state).into id
      | _ => fun _ => none)

/-- A liquidity pool. -/
structure PoolEntry where
  pool : String
  state : PoolState

def PoolEntry.form : Form PoolEntry :=
  record <| Fields.make PoolEntry.mk
    |>.field "liquidity_pool_id" text (·.pool)
    |>.field "body" PoolState.form (·.state)

/-! ## Contracts -/

/-- Whether an entry of a contract may be restored after its time. -/
inductive Durability
  | temporary
  | persistent
deriving DecidableEq

/-- The printed name of a durability. -/
def Durability.name : Durability → String
  | .temporary => "temporary"
  | .persistent => "persistent"

def Durability.form : Form Durability :=
  enumeration [.temporary, .persistent] Durability.name

/-- A value that a contract keeps under a key. -/
structure ContractDataEntry where
  contract : ScAddress
  key : ScVal
  durability : Durability
  value : ScVal

def ContractDataEntry.form : Form ContractDataEntry :=
  record <| Fields.make ContractDataEntry.mk
    |>.field "contract" ScAddress.form (·.contract)
    |>.field "key" ScVal.form (·.key)
    |>.field "durability" Durability.form (·.durability)
    |>.field "val" ScVal.form (·.value)

/-- What the parsed code of a contract is made of. -/
structure CostInputs where
  instructions : UInt32
  functions : UInt32
  globals : UInt32
  tableEntries : UInt32
  types : UInt32
  dataSegments : UInt32
  elemSegments : UInt32
  imports : UInt32
  exports : UInt32
  dataSegmentBytes : UInt32

def CostInputs.form : Form CostInputs :=
  record <| Fields.make CostInputs.mk
    |>.field "n_instructions" uint32 (·.instructions)
    |>.field "n_functions" uint32 (·.functions)
    |>.field "n_globals" uint32 (·.globals)
    |>.field "n_table_entries" uint32 (·.tableEntries)
    |>.field "n_types" uint32 (·.types)
    |>.field "n_data_segments" uint32 (·.dataSegments)
    |>.field "n_elem_segments" uint32 (·.elemSegments)
    |>.field "n_imports" uint32 (·.imports)
    |>.field "n_exports" uint32 (·.exports)
    |>.field "n_data_segment_bytes" uint32 (·.dataSegmentBytes)

/-- The code of a contract. -/
structure CodeEntry where
  hash : Hash
  code : String
  costInputs : Option CostInputs

def CodeEntry.form : Form CodeEntry :=
  record <| Fields.make CodeEntry.mk
    |>.field "hash" Form.hash (·.hash)
    |>.field "code" text (·.code)
    |>.field "cost_inputs" (option CostInputs.form) (·.costInputs)

/-- How long another entry lives. -/
structure TtlEntry where
  keyHash : Hash
  liveUntilLedgerSeq : UInt32

def TtlEntry.form : Form TtlEntry :=
  record <| Fields.make TtlEntry.mk
    |>.field "key_hash" hash (·.keyHash)
    |>.field "live_until_ledger_seq" uint32 (·.liveUntilLedgerSeq)

/-! ## Entries, keys and changes -/

/-- What an entry holds. -/
inductive EntryData
  | account (entry : AccountEntry)
  | trustLine (entry : TrustLineEntry)
  | offer (entry : OfferEntry)
  | data (entry : DataEntry)
  | claimableBalance (entry : BalanceEntry)
  | liquidityPool (entry : PoolEntry)
  | contractData (entry : ContractDataEntry)
  | contractCode (entry : CodeEntry)
  | configSetting (entry : Setting)
  | ttl (entry : TtlEntry)

def EntryData.form : Form EntryData :=
  tagged
    (fun
      | .account entry => ⟨"account", value AccountEntry.form, entry⟩
      | .trustLine entry => ⟨"trustline", value TrustLineEntry.form, entry⟩
      | .offer entry => ⟨"offer", value OfferEntry.form, entry⟩
      | .data entry => ⟨"data", value DataEntry.form, entry⟩
      | .claimableBalance entry => ⟨"claimable_balance", value BalanceEntry.form, entry⟩
      | .liquidityPool entry => ⟨"liquidity_pool", value PoolEntry.form, entry⟩
      | .contractData entry => ⟨"contract_data", value ContractDataEntry.form, entry⟩
      | .contractCode entry => ⟨"contract_code", value CodeEntry.form, entry⟩
      | .configSetting entry => ⟨"config_setting", value Setting.form, entry⟩
      | .ttl entry => ⟨"ttl", value TtlEntry.form, entry⟩)
    (fun
      | "account" => (value AccountEntry.form).into .account
      | "trustline" => (value TrustLineEntry.form).into .trustLine
      | "offer" => (value OfferEntry.form).into .offer
      | "data" => (value DataEntry.form).into .data
      | "claimable_balance" => (value BalanceEntry.form).into .claimableBalance
      | "liquidity_pool" => (value PoolEntry.form).into .liquidityPool
      | "contract_data" => (value ContractDataEntry.form).into .contractData
      | "contract_code" => (value CodeEntry.form).into .contractCode
      | "config_setting" => (value Setting.form).into .configSetting
      | "ttl" => (value TtlEntry.form).into .ttl
      | _ => fun _ => none)

/-- An entry, when it last changed and who pays its reserve. -/
structure LedgerEntry where
  lastModified : UInt32
  sponsor : Option String
  data : EntryData

def LedgerEntry.form : Form LedgerEntry :=
  record <| Fields.make LedgerEntry.mk
    |>.field "last_modified_ledger_seq" uint32 (·.lastModified)
    |>.field "sponsor" (option text) (·.sponsor)
    |>.field "data" EntryData.form (·.data)

/-- The name of an entry. -/
inductive LedgerKey
  | account (account : String)
  | trustLine (account : String) (asset : TrustLineAsset)
  | offer (seller : String) (offerId : Int64)
  | data (account name : String)
  | claimableBalance (balance : String)
  | liquidityPool (pool : String)
  | contractData (contract : ScAddress) (key : ScVal) (durability : Durability)
  | contractCode (hash : Hash)
  | configSetting (setting : SettingId)
  | ttl (keyHash : Hash)

namespace LedgerKey

/-- The only part of a key. -/
def sole {α : Type} (name : String) (form : Form α) : Content α :=
  named <| Fields.make id |>.field name form id

/-- The parts of the key of a trust line. -/
def trustLineFields : Fields (String × TrustLineAsset) (String × TrustLineAsset) :=
  Fields.make Prod.mk |>.field "account_id" text (·.1) |>.field "asset" TrustLineAsset.form (·.2)

/-- The parts of the key of an offer. -/
def offerFields : Fields (String × Int64) (String × Int64) :=
  Fields.make Prod.mk |>.field "seller_id" text (·.1) |>.field "offer_id" int64 (·.2)

/-- The parts of the key of a data entry. -/
def dataFields : Fields (String × String) (String × String) :=
  Fields.make Prod.mk |>.field "account_id" text (·.1) |>.field "data_name" text (·.2)

/-- The parts of the key of a contract's value. -/
def contractDataFields :
    Fields (ScAddress × ScVal × Durability) (ScAddress × ScVal × Durability) :=
  Fields.make (fun contract key durability => (contract, key, durability))
    |>.field "contract" ScAddress.form (·.1)
    |>.field "key" ScVal.form (·.2.1)
    |>.field "durability" Durability.form (·.2.2)

def form : Form LedgerKey :=
  tagged
    (fun
      | .account id => ⟨"account", sole "account_id" text, id⟩
      | .trustLine id asset => ⟨"trustline", named trustLineFields, (id, asset)⟩
      | .offer seller offerId => ⟨"offer", named offerFields, (seller, offerId)⟩
      | .data id name => ⟨"data", named dataFields, (id, name)⟩
      | .claimableBalance balance => ⟨"claimable_balance", sole "balance_id" text, balance⟩
      | .liquidityPool pool => ⟨"liquidity_pool", sole "liquidity_pool_id" text, pool⟩
      | .contractData contract key durability =>
        ⟨"contract_data", named contractDataFields, (contract, key, durability)⟩
      | .contractCode h => ⟨"contract_code", sole "hash" hash, h⟩
      | .configSetting setting =>
        ⟨"config_setting", sole "config_setting_id" SettingId.form, setting⟩
      | .ttl keyHash => ⟨"ttl", sole "key_hash" hash, keyHash⟩)
    (fun
      | "account" => (sole "account_id" text).into .account
      | "trustline" => (named trustLineFields).into fun (id, asset) => .trustLine id asset
      | "offer" => (named offerFields).into fun (seller, offerId) => .offer seller offerId
      | "data" => (named dataFields).into fun (id, name) => .data id name
      | "claimable_balance" => (sole "balance_id" text).into .claimableBalance
      | "liquidity_pool" => (sole "liquidity_pool_id" text).into .liquidityPool
      | "contract_data" =>
        (named contractDataFields).into fun (contract, key, durability) =>
          .contractData contract key durability
      | "contract_code" => (sole "hash" hash).into .contractCode
      | "config_setting" => (sole "config_setting_id" SettingId.form).into .configSetting
      | "ttl" => (sole "key_hash" hash).into .ttl
      | _ => fun _ => none)

end LedgerKey

/-- What became of an entry. -/
inductive EntryChange
  | created (entry : LedgerEntry)
  | updated (entry : LedgerEntry)
  | removed (key : LedgerKey)
  | state (entry : LedgerEntry)
  | restored (entry : LedgerEntry)

def EntryChange.form : Form EntryChange :=
  tagged
    (fun
      | .created entry => ⟨"created", value LedgerEntry.form, entry⟩
      | .updated entry => ⟨"updated", value LedgerEntry.form, entry⟩
      | .removed key => ⟨"removed", value LedgerKey.form, key⟩
      | .state entry => ⟨"state", value LedgerEntry.form, entry⟩
      | .restored entry => ⟨"restored", value LedgerEntry.form, entry⟩)
    (fun
      | "created" => (value LedgerEntry.form).into .created
      | "updated" => (value LedgerEntry.form).into .updated
      | "removed" => (value LedgerKey.form).into .removed
      | "state" => (value LedgerEntry.form).into .state
      | "restored" => (value LedgerEntry.form).into .restored
      | _ => fun _ => none)

end LedgerExport.Record
