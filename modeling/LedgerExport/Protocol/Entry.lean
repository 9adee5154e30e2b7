import LedgerExport.Protocol.Asset
import LedgerExport.Protocol.ScVal
import LedgerExport.Protocol.Setting

/-!
# Ledger entries

What a ledger keeps: accounts, trust lines, offers, data, claimable balances,
pools, contract data and code, settings, and how long entries live. A key names
an entry; a change says what became of one.

## Implementation notes

The schema grew by extensions behind a version. Here each is an option that
holds the next, so that a version without its predecessors cannot be written.
-/

namespace LedgerExport.Protocol

open Xdr

/-! ## Accounts -/

/-- When the sequence number of an account last moved. -/
structure SequenceAge where
  ledger : UInt32
  time : UInt64

def SequenceAge.layout : Codec SequenceAge :=
  Layout.make SequenceAge.mk
    |>.mark 0
    |>.field uint32 (·.ledger)
    |>.field uint64 (·.time)

/-- Who pays for what, the second extension of an account. -/
structure Sponsorship where
  sponsored : UInt32
  sponsoring : UInt32
  signerSponsors : List (Option AccountId)
  age : Option SequenceAge

def Sponsorship.layout : Codec Sponsorship :=
  Layout.make Sponsorship.mk
    |>.field uint32 (·.sponsored)
    |>.field uint32 (·.sponsoring)
    |>.field (list 20 (optional AccountId.layout)) (·.signerSponsors)
    |>.field (extension 3 SequenceAge.layout) (·.age)

/-- The first extension of an account. -/
structure AccountExtension where
  liabilities : Liabilities
  sponsorship : Option Sponsorship

def AccountExtension.layout : Codec AccountExtension :=
  Layout.make AccountExtension.mk
    |>.field Liabilities.layout (·.liabilities)
    |>.field (extension 2 Sponsorship.layout) (·.sponsorship)

/-- An account. -/
structure AccountEntry where
  account : AccountId
  balance : Int64
  sequence : Int64
  subEntries : UInt32
  inflationDest : Option AccountId
  flags : UInt32
  homeDomain : Octets
  thresholds : FixedBytes 4
  signers : List Signer
  extension : Option AccountExtension

def AccountEntry.layout : Codec AccountEntry :=
  Layout.make AccountEntry.mk
    |>.field AccountId.layout (·.account)
    |>.field int64 (·.balance)
    |>.field int64 (·.sequence)
    |>.field uint32 (·.subEntries)
    |>.field (optional AccountId.layout) (·.inflationDest)
    |>.field uint32 (·.flags)
    |>.field (octets 32) (·.homeDomain)
    |>.field (fixed 4) (·.thresholds)
    |>.field (list 20 Signer.layout) (·.signers)
    |>.field (Xdr.extension 1 AccountExtension.layout) (·.extension)

/-! ## Trust lines, offers and data -/

/-- In how many pools the asset of a trust line is used, the second extension. -/
structure PoolUse where
  count : Int32

def PoolUse.layout : Codec PoolUse :=
  Layout.make PoolUse.mk |>.field int32 (·.count) |>.mark 0

/-- The first extension of a trust line. -/
structure TrustLineExtension where
  liabilities : Liabilities
  poolUse : Option PoolUse

def TrustLineExtension.layout : Codec TrustLineExtension :=
  Layout.make TrustLineExtension.mk
    |>.field Liabilities.layout (·.liabilities)
    |>.field (extension 2 PoolUse.layout) (·.poolUse)

/-- What an account holds of an asset. -/
structure TrustLineEntry where
  account : AccountId
  asset : TrustLineAsset
  balance : Int64
  limit : Int64
  flags : UInt32
  extension : Option TrustLineExtension

def TrustLineEntry.layout : Codec TrustLineEntry :=
  Layout.make TrustLineEntry.mk
    |>.field AccountId.layout (·.account)
    |>.field TrustLineAsset.layout (·.asset)
    |>.field int64 (·.balance)
    |>.field int64 (·.limit)
    |>.field uint32 (·.flags)
    |>.field (Xdr.extension 1 TrustLineExtension.layout) (·.extension)

/-- An offer to give one asset for another. -/
structure OfferEntry where
  seller : AccountId
  offerId : Int64
  selling : Asset
  buying : Asset
  amount : Int64
  price : Price
  flags : UInt32

def OfferEntry.layout : Codec OfferEntry :=
  Layout.make OfferEntry.mk
    |>.field AccountId.layout (·.seller)
    |>.field int64 (·.offerId)
    |>.field Asset.layout (·.selling)
    |>.field Asset.layout (·.buying)
    |>.field int64 (·.amount)
    |>.field Price.layout (·.price)
    |>.field uint32 (·.flags)
    |>.mark 0

/-- A named value that an account keeps. -/
structure DataEntry where
  account : AccountId
  name : Octets
  value : Octets

def DataEntry.layout : Codec DataEntry :=
  Layout.make DataEntry.mk
    |>.field AccountId.layout (·.account)
    |>.field (octets 64) (·.name)
    |>.field (octets 64) (·.value)
    |>.mark 0

/-! ## Claimable balances and pools -/

/-- An amount put aside for claimants. -/
structure BalanceEntry where
  balance : BalanceId
  claimants : List Claimant
  asset : Asset
  amount : Int64
  flags : Option UInt32

def BalanceEntry.layout : Codec BalanceEntry :=
  Layout.make BalanceEntry.mk
    |>.field BalanceId.layout (·.balance)
    |>.field (list 10 Claimant.layout) (·.claimants)
    |>.field Asset.layout (·.asset)
    |>.field int64 (·.amount)
    |>.field (extension 1 (Layout.make id |>.mark 0 |>.field uint32 id)) (·.flags)

/-- A pool of two assets and its shares. -/
structure PoolState where
  parameters : PoolParameters
  reserveA : Int64
  reserveB : Int64
  totalPoolShares : Int64
  poolSharesTrustLineCount : Int64

def PoolState.layout : Codec PoolState :=
  Layout.make PoolState.mk
    |>.field PoolParameters.layout (·.parameters)
    |>.field int64 (·.reserveA)
    |>.field int64 (·.reserveB)
    |>.field int64 (·.totalPoolShares)
    |>.field int64 (·.poolSharesTrustLineCount)

/-- A liquidity pool. -/
structure PoolEntry where
  pool : PoolId
  state : PoolState

def PoolEntry.layout : Codec PoolEntry :=
  Layout.make PoolEntry.mk
    |>.field PoolId.layout (·.pool)
    |>.field (single 0 PoolState.layout) (·.state)

/-! ## Contracts -/

/-- Whether an entry of a contract may be restored after its time. -/
inductive Durability
  | temporary
  | persistent
deriving DecidableEq

namespace Durability

/-- Both kinds, in the order of their numbers. -/
def members : List Durability := [temporary, persistent]

def layout : Codec Durability :=
  enumeration members fun durability => UInt32.ofNat durability.ctorIdx

end Durability

/-- A value that a contract keeps under a key. -/
structure ContractDataEntry where
  contract : ScAddress
  key : ScVal
  durability : Durability
  value : ScVal

def ContractDataEntry.layout : Codec ContractDataEntry :=
  Layout.make ContractDataEntry.mk
    |>.mark 0
    |>.field ScAddress.layout (·.contract)
    |>.field ScVal.layout (·.key)
    |>.field Durability.layout (·.durability)
    |>.field ScVal.layout (·.value)

/-- What the parsed code of a contract is made of. -/
structure CostInputs where
  instructions : UInt32
  functions : UInt32
  globals : UInt32
  tableEntries : UInt32
  types : UInt32
  dataSegments : UInt32
  elemSegments : UInt32
  imports : UInt32
  exports : UInt32
  dataSegmentBytes : UInt32

def CostInputs.layout : Codec CostInputs :=
  Layout.make CostInputs.mk
    |>.mark 0
    |>.field uint32 (·.instructions)
    |>.field uint32 (·.functions)
    |>.field uint32 (·.globals)
    |>.field uint32 (·.tableEntries)
    |>.field uint32 (·.types)
    |>.field uint32 (·.dataSegments)
    |>.field uint32 (·.elemSegments)
    |>.field uint32 (·.imports)
    |>.field uint32 (·.exports)
    |>.field uint32 (·.dataSegmentBytes)

/-- The code of a contract. -/
structure CodeEntry where
  costInputs : Option CostInputs
  hash : Hash
  code : Octets

def CodeEntry.layout : Codec CodeEntry :=
  Layout.make CodeEntry.mk
    |>.field (extension 1 (Layout.make id |>.mark 0 |>.field CostInputs.layout id)) (·.costInputs)
    |>.field (fixed 32) (·.hash)
    |>.field (octets unlimited) (·.code)

/-- How long another entry lives. -/
structure TtlEntry where
  keyHash : Hash
  liveUntilLedgerSeq : UInt32

def TtlEntry.layout : Codec TtlEntry :=
  Layout.make TtlEntry.mk
    |>.field (fixed 32) (·.keyHash)
    |>.field uint32 (·.liveUntilLedgerSeq)

/-! ## Entries, keys and changes -/

/-- What an entry holds. -/
inductive EntryData
  | account (entry : AccountEntry)
  | trustLine (entry : TrustLineEntry)
  | offer (entry : OfferEntry)
  | data (entry : DataEntry)
  | claimableBalance (entry : BalanceEntry)
  | liquidityPool (entry : PoolEntry)
  | contractData (entry : ContractDataEntry)
  | contractCode (entry : CodeEntry)
  | configSetting (entry : Setting)
  | ttl (entry : TtlEntry)

def EntryData.layout : Codec EntryData :=
  union
    (fun
      | .account entry => ⟨0, AccountEntry.layout, entry⟩
      | .trustLine entry => ⟨1, TrustLineEntry.layout, entry⟩
      | .offer entry => ⟨2, OfferEntry.layout, entry⟩
      | .data entry => ⟨3, DataEntry.layout, entry⟩
      | .claimableBalance entry => ⟨4, BalanceEntry.layout, entry⟩
      | .liquidityPool entry => ⟨5, PoolEntry.layout, entry⟩
      | .contractData entry => ⟨6, ContractDataEntry.layout, entry⟩
      | .contractCode entry => ⟨7, CodeEntry.layout, entry⟩
      | .configSetting entry => ⟨8, Setting.layout, entry⟩
      | .ttl entry => ⟨9, TtlEntry.layout, entry⟩)
    (fun
      | 0 => .account <$> AccountEntry.layout.read
      | 1 => .trustLine <$> TrustLineEntry.layout.read
      | 2 => .offer <$> OfferEntry.layout.read
      | 3 => .data <$> DataEntry.layout.read
      | 4 => .claimableBalance <$> BalanceEntry.layout.read
      | 5 => .liquidityPool <$> PoolEntry.layout.read
      | 6 => .contractData <$> ContractDataEntry.layout.read
      | 7 => .contractCode <$> CodeEntry.layout.read
      | 8 => .configSetting <$> Setting.layout.read
      | 9 => .ttl <$> TtlEntry.layout.read
      | _ => throw .invalidValue)

/-- Who pays the reserve of an entry, the extension of an entry. -/
structure EntryExtension where
  sponsor : Option AccountId

def EntryExtension.layout : Codec EntryExtension :=
  Layout.make EntryExtension.mk |>.field (optional AccountId.layout) (·.sponsor) |>.mark 0

/-- An entry and when it last changed. -/
structure LedgerEntry where
  lastModified : UInt32
  data : EntryData
  extension : Option EntryExtension

def LedgerEntry.layout : Codec LedgerEntry :=
  Layout.make LedgerEntry.mk
    |>.field uint32 (·.lastModified)
    |>.field EntryData.layout (·.data)
    |>.field (Xdr.extension 1 EntryExtension.layout) (·.extension)

/-- The name of an entry. -/
inductive LedgerKey
  | account (account : AccountId)
  | trustLine (account : AccountId) (asset : TrustLineAsset)
  | offer (seller : AccountId) (offerId : Int64)
  | data (account : AccountId) (name : Octets)
  | claimableBalance (balance : BalanceId)
  | liquidityPool (pool : PoolId)
  | contractData (contract : ScAddress) (key : ScVal) (durability : Durability)
  | contractCode (hash : Hash)
  | configSetting (setting : SettingId)
  | ttl (keyHash : Hash)

namespace LedgerKey

/-- Behind the tag of a trust line. -/
def trustLineLayout : Codec (AccountId × TrustLineAsset) :=
  pair AccountId.layout TrustLineAsset.layout

/-- Behind the tag of an offer. -/
def offerLayout : Codec (AccountId × Int64) :=
  pair AccountId.layout int64

/-- Behind the tag of a data entry. -/
def dataLayout : Codec (AccountId × Octets) :=
  pair AccountId.layout (octets 64)

/-- Behind the tag of a contract's value. -/
def contractDataLayout : Codec (ScAddress × ScVal × Durability) :=
  pair ScAddress.layout (pair ScVal.layout Durability.layout)

def layout : Codec LedgerKey :=
  union
    (fun
      | .account id => ⟨0, AccountId.layout, id⟩
      | .trustLine id asset => ⟨1, trustLineLayout, (id, asset)⟩
      | .offer seller offerId => ⟨2, offerLayout, (seller, offerId)⟩
      | .data id name => ⟨3, dataLayout, (id, name)⟩
      | .claimableBalance balance => ⟨4, BalanceId.layout, balance⟩
      | .liquidityPool pool => ⟨5, PoolId.layout, pool⟩
      | .contractData contract key durability =>
        ⟨6, contractDataLayout, (contract, key, durability)⟩
      | .contractCode hash => ⟨7, fixed 32, hash⟩
      | .configSetting setting => ⟨8, SettingId.layout, setting⟩
      | .ttl keyHash => ⟨9, fixed 32, keyHash⟩)
    (fun
      | 0 => .account <$> AccountId.layout.read
      | 1 => (fun (id, asset) => .trustLine id asset) <$> trustLineLayout.read
      | 2 => (fun (seller, offerId) => .offer seller offerId) <$> offerLayout.read
      | 3 => (fun (id, name) => .data id name) <$> dataLayout.read
      | 4 => .claimableBalance <$> BalanceId.layout.read
      | 5 => .liquidityPool <$> PoolId.layout.read
      | 6 => (fun (contract, key, durability) => .contractData contract key durability) <$>
          contractDataLayout.read
      | 7 => .contractCode <$> (fixed 32).read
      | 8 => .configSetting <$> SettingId.layout.read
      | 9 => .ttl <$> (fixed 32).read
      | _ => throw .invalidValue)

end LedgerKey

/-- What became of an entry. -/
inductive EntryChange
  | created (entry : LedgerEntry)
  | updated (entry : LedgerEntry)
  | removed (key : LedgerKey)
  | state (entry : LedgerEntry)
  | restored (entry : LedgerEntry)

def EntryChange.layout : Codec EntryChange :=
  union
    (fun
      | .created entry => ⟨0, LedgerEntry.layout, entry⟩
      | .updated entry => ⟨1, LedgerEntry.layout, entry⟩
      | .removed key => ⟨2, LedgerKey.layout, key⟩
      | .state entry => ⟨3, LedgerEntry.layout, entry⟩
      | .restored entry => ⟨4, LedgerEntry.layout, entry⟩)
    (fun
      | 0 => .created <$> LedgerEntry.layout.read
      | 1 => .updated <$> LedgerEntry.layout.read
      | 2 => .removed <$> LedgerKey.layout.read
      | 3 => .state <$> LedgerEntry.layout.read
      | 4 => .restored <$> LedgerEntry.layout.read
      | _ => throw .invalidValue)

/-- Any number of changes. -/
def EntryChange.layouts : Codec (List EntryChange) :=
  many EntryChange.layout

end LedgerExport.Protocol
