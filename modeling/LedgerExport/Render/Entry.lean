import LedgerExport.Protocol.Entry
import LedgerExport.Record.Entry
import LedgerExport.Render.ScVal
import LedgerExport.Render.Setting

/-!
# Ledger entries as they are shown

Extensions are laid open: what one adds is a field, absent where the entry does
not have the extension.
-/

namespace LedgerExport.Protocol

/-- The four weights in the order in which they are kept. -/
def renderThresholds (thresholds : FixedBytes 4) : Record.Thresholds where
  masterWeight := thresholds.bytes.getD 0 0
  low := thresholds.bytes.getD 1 0
  medium := thresholds.bytes.getD 2 0
  high := thresholds.bytes.getD 3 0

def AccountEntry.render (p : AccountEntry) : Record.AccountEntry :=
  let sponsorship := p.extension.bind (·.sponsorship)
  let age := sponsorship.bind (·.age)
  { account := p.account.text
    balance := p.balance
    sequence := p.sequence
    subEntries := p.subEntries
    inflationDest := p.inflationDest.map (·.text)
    flags := p.flags
    homeDomain := Utf8.lossy p.homeDomain
    thresholds := renderThresholds p.thresholds
    signers := p.signers.map (·.render)
    liabilities := p.extension.map (·.liabilities.render)
    sponsored := sponsorship.map (·.sponsored)
    sponsoring := sponsorship.map (·.sponsoring)
    signerSponsors := sponsorship.map fun s => s.signerSponsors.map fun id => id.map (·.text)
    sequenceLedger := age.map (·.ledger)
    sequenceTime := age.map (·.time) }

def TrustLineEntry.render (p : TrustLineEntry) : Record.TrustLineEntry where
  account := p.account.text
  asset := p.asset.render
  balance := p.balance
  limit := p.limit
  flags := p.flags
  liabilities := p.extension.map (·.liabilities.render)
  poolUseCount := (p.extension.bind (·.poolUse)).map (·.count)

def OfferEntry.render (p : OfferEntry) : Record.OfferEntry where
  seller := p.seller.text
  offerId := p.offerId
  selling := p.selling.render
  buying := p.buying.render
  amount := p.amount
  price := p.price.render
  flags := p.flags

def DataEntry.render (p : DataEntry) : Record.DataEntry where
  account := p.account.text
  name := Utf8.lossy p.name
  value := Hex.text p.value

def BalanceEntry.render (p : BalanceEntry) : Record.BalanceEntry where
  balance := p.balance.text
  claimants := p.claimants.map (·.render)
  asset := p.asset.render
  amount := p.amount
  flags := p.flags

def PoolState.render (p : PoolState) : Record.PoolState where
  parameters := p.parameters.render
  reserveA := p.reserveA
  reserveB := p.reserveB
  totalPoolShares := p.totalPoolShares
  poolSharesTrustLineCount := p.poolSharesTrustLineCount

def PoolEntry.render (p : PoolEntry) : Record.PoolEntry where
  pool := p.pool.text
  state := p.state.render

def Durability.render : Durability → Record.Durability
  | .temporary => .temporary
  | .persistent => .persistent

def ContractDataEntry.render (p : ContractDataEntry) : Record.ContractDataEntry where
  contract := p.contract.render
  key := p.key.render
  durability := p.durability.render
  value := p.value.render

def CostInputs.render (p : CostInputs) : Record.CostInputs where
  instructions := p.instructions
  functions := p.functions
  globals := p.globals
  tableEntries := p.tableEntries
  types := p.types
  dataSegments := p.dataSegments
  elemSegments := p.elemSegments
  imports := p.imports
  exports := p.exports
  dataSegmentBytes := p.dataSegmentBytes

def CodeEntry.render (p : CodeEntry) : Record.CodeEntry where
  hash := p.hash
  code := Hex.text p.code
  costInputs := p.costInputs.map (·.render)

def TtlEntry.render (p : TtlEntry) : Record.TtlEntry where
  keyHash := p.keyHash
  liveUntilLedgerSeq := p.liveUntilLedgerSeq

def EntryData.render : EntryData → Record.EntryData
  | .account entry => .account entry.render
  | .trustLine entry => .trustLine entry.render
  | .offer entry => .offer entry.render
  | .data entry => .data entry.render
  | .claimableBalance entry => .claimableBalance entry.render
  | .liquidityPool entry => .liquidityPool entry.render
  | .contractData entry => .contractData entry.render
  | .contractCode entry => .contractCode entry.render
  | .configSetting entry => .configSetting entry.render
  | .ttl entry => .ttl entry.render

def LedgerEntry.render (p : LedgerEntry) : Record.LedgerEntry where
  lastModified := p.lastModified
  sponsor := (p.extension.bind (·.sponsor)).map (·.text)
  data := p.data.render

def LedgerKey.render : LedgerKey → Record.LedgerKey
  | .account id => .account id.text
  | .trustLine id asset => .trustLine id.text asset.render
  | .offer seller offerId => .offer seller.text offerId
  | .data id name => .data id.text (Utf8.lossy name)
  | .claimableBalance balance => .claimableBalance balance.text
  | .liquidityPool pool => .liquidityPool pool.text
  | .contractData contract key durability =>
    .contractData contract.render key.render durability.render
  | .contractCode hash => .contractCode hash
  | .configSetting setting => .configSetting setting.render
  | .ttl keyHash => .ttl keyHash

def EntryChange.render : EntryChange → Record.EntryChange
  | .created entry => .created entry.render
  | .updated entry => .updated entry.render
  | .removed key => .removed key.render
  | .state entry => .state entry.render
  | .restored entry => .restored entry.render

end LedgerExport.Protocol
