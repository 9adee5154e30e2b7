import LedgerExport.Protocol.Operation
import LedgerExport.Record.Operation
import LedgerExport.Render.Entry

/-!
# Operations as they are shown

Operations, contract calls and the trees of calls that addresses consent to,
with every part as it is shown.
-/

namespace LedgerExport.Protocol

/-! ## Contract calls -/

def InvokeContract.render (p : InvokeContract) : Record.InvokeContract where
  contract := p.contract.render
  functionName := Utf8.lossy p.functionName
  args := p.args.map (·.render)

def ContractIdPreimage.render : ContractIdPreimage → Record.ContractIdPreimage
  | .address a salt => .address a.render (Hex.text salt.bytes)
  | .asset a => .asset a.render

/-- The making of a contract in the older form, which has no arguments. -/
def CreateContract.render (p : CreateContract) : Record.CreateContract where
  preimage := p.preimage.render
  executable := p.executable.render
  arguments := none

/-- The making of a contract with arguments. -/
def CreateContract.renderWith (p : CreateContract) (arguments : List ScVal) :
    Record.CreateContract where
  preimage := p.preimage.render
  executable := p.executable.render
  arguments := some (arguments.map (·.render))

def HostFunction.render : HostFunction → Record.HostFunction
  | .invokeContract call => .invokeContract call.render
  | .createContract contract => .createContract contract.render
  | .uploadWasm code => .uploadWasm (Hex.text code)
  | .createContractV2 contract arguments => .createContractV2 (contract.renderWith arguments)

def AuthorizedFunction.render : AuthorizedFunction → Record.AuthorizedFunction
  | .contract call => .contract call.render
  | .createContract c => .createContract c.render
  | .createContractV2 c arguments => .createContractV2 (c.renderWith arguments)

namespace AuthorizedInvocation

mutual

def render : AuthorizedInvocation → Record.AuthorizedInvocation
  | .mk function calls => .mk function.render (renderAll calls)

/-- Every tree of calls as it is shown. -/
def renderAll : List AuthorizedInvocation → List Record.AuthorizedInvocation
  | [] => []
  | call :: calls => render call :: renderAll calls

end

end AuthorizedInvocation

def AddressCredentials.render (p : AddressCredentials) : Record.AddressCredentials where
  address := p.address.render
  nonce := p.nonce
  signatureExpirationLedger := p.signatureExpirationLedger
  signature := p.signature.render

def Credentials.render : Credentials → Record.Credentials
  | .sourceAccount => .sourceAccount
  | .address c => .address c.render

def AuthorizationEntry.render (p : AuthorizationEntry) : Record.AuthorizationEntry where
  credentials := p.credentials.render
  root := p.root.render

def Footprint.render (p : Footprint) : Record.Footprint where
  readOnly := p.readOnly.map (·.render)
  readWrite := p.readWrite.map (·.render)

def Resources.render (p : Resources) : Record.Resources where
  footprint := p.footprint.render
  instructions := p.instructions
  diskReadBytes := p.diskReadBytes
  writeBytes := p.writeBytes

def SorobanData.render (p : SorobanData) : Record.SorobanData where
  resources := p.resources.render
  resourceFee := p.resourceFee
  archivedEntries := p.archivedEntries

/-! ## Operations -/

def CreateAccount.render (p : CreateAccount) : Record.CreateAccount where
  destination := p.destination.text
  startingBalance := p.startingBalance

def Payment.render (p : Payment) : Record.Payment where
  destination := p.destination.text
  asset := p.asset.render
  amount := p.amount

def PathPaymentStrictReceive.render (p : PathPaymentStrictReceive) :
    Record.PathPaymentStrictReceive where
  sendAsset := p.sendAsset.render
  sendMax := p.sendMax
  destination := p.destination.text
  destAsset := p.destAsset.render
  destAmount := p.destAmount
  path := p.path.map (·.render)

def ManageSellOffer.render (p : ManageSellOffer) : Record.ManageSellOffer where
  selling := p.selling.render
  buying := p.buying.render
  amount := p.amount
  price := p.price.render
  offerId := p.offerId

def CreatePassiveSellOffer.render (p : CreatePassiveSellOffer) : Record.CreatePassiveSellOffer where
  selling := p.selling.render
  buying := p.buying.render
  amount := p.amount
  price := p.price.render

def SetOptions.render (p : SetOptions) : Record.SetOptions where
  inflationDest := p.inflationDest.map (·.text)
  clearFlags := p.clearFlags
  setFlags := p.setFlags
  masterWeight := p.masterWeight
  lowThreshold := p.lowThreshold
  medThreshold := p.medThreshold
  highThreshold := p.highThreshold
  homeDomain := p.homeDomain.map Utf8.lossy
  signer := p.signer.map (·.render)

def ChangeTrust.render (p : ChangeTrust) : Record.ChangeTrust where
  line := p.line.render
  limit := p.limit

def AllowTrust.render (p : AllowTrust) : Record.AllowTrust where
  trustor := p.trustor.text
  code := p.code.text
  authorize := p.authorize

def ManageData.render (p : ManageData) : Record.ManageData where
  name := Utf8.lossy p.name
  value := p.value.map Hex.text

def BumpSequence.render (p : BumpSequence) : Record.BumpSequence where
  bumpTo := p.bumpTo

def ManageBuyOffer.render (p : ManageBuyOffer) : Record.ManageBuyOffer where
  selling := p.selling.render
  buying := p.buying.render
  buyAmount := p.buyAmount
  price := p.price.render
  offerId := p.offerId

def PathPaymentStrictSend.render (p : PathPaymentStrictSend) : Record.PathPaymentStrictSend where
  sendAsset := p.sendAsset.render
  sendAmount := p.sendAmount
  destination := p.destination.text
  destAsset := p.destAsset.render
  destMin := p.destMin
  path := p.path.map (·.render)

def CreateClaimableBalance.render (p : CreateClaimableBalance) : Record.CreateClaimableBalance where
  asset := p.asset.render
  amount := p.amount
  claimants := p.claimants.map (·.render)

def BeginSponsoring.render (p : BeginSponsoring) : Record.BeginSponsoring where
  sponsored := p.sponsored.text

def RevokeSponsorship.render : RevokeSponsorship → Record.RevokeSponsorship
  | .entry key => .entry key.render
  | .signer account key => .signer account.text key.render

def Clawback.render (p : Clawback) : Record.Clawback where
  asset := p.asset.render
  holder := p.holder.text
  amount := p.amount

def SetTrustLineFlags.render (p : SetTrustLineFlags) : Record.SetTrustLineFlags where
  trustor := p.trustor.text
  asset := p.asset.render
  clearFlags := p.clearFlags
  setFlags := p.setFlags

def PoolDeposit.render (p : PoolDeposit) : Record.PoolDeposit where
  pool := p.pool.text
  maxAmountA := p.maxAmountA
  maxAmountB := p.maxAmountB
  minPrice := p.minPrice.render
  maxPrice := p.maxPrice.render

def PoolWithdraw.render (p : PoolWithdraw) : Record.PoolWithdraw where
  pool := p.pool.text
  amount := p.amount
  minAmountA := p.minAmountA
  minAmountB := p.minAmountB

def InvokeHostFunction.render (p : InvokeHostFunction) : Record.InvokeHostFunction where
  function := p.function.render
  auth := p.auth.map (·.render)

def ExtendFootprint.render (p : ExtendFootprint) : Record.ExtendFootprint where
  extendTo := p.extendTo

def OperationBody.render : OperationBody → Record.OperationBody
  | .createAccount op => .createAccount op.render
  | .payment op => .payment op.render
  | .pathPaymentStrictReceive op => .pathPaymentStrictReceive op.render
  | .manageSellOffer op => .manageSellOffer op.render
  | .createPassiveSellOffer op => .createPassiveSellOffer op.render
  | .setOptions op => .setOptions op.render
  | .changeTrust op => .changeTrust op.render
  | .allowTrust op => .allowTrust op.render
  | .accountMerge destination => .accountMerge destination.text
  | .inflation => .inflation
  | .manageData op => .manageData op.render
  | .bumpSequence op => .bumpSequence op.render
  | .manageBuyOffer op => .manageBuyOffer op.render
  | .pathPaymentStrictSend op => .pathPaymentStrictSend op.render
  | .createClaimableBalance op => .createClaimableBalance op.render
  | .claimClaimableBalance balance => .claimClaimableBalance ⟨balance.text⟩
  | .beginSponsoringFutureReserves op => .beginSponsoringFutureReserves op.render
  | .endSponsoringFutureReserves => .endSponsoringFutureReserves
  | .revokeSponsorship op => .revokeSponsorship op.render
  | .clawback op => .clawback op.render
  | .clawbackClaimableBalance balance => .clawbackClaimableBalance ⟨balance.text⟩
  | .setTrustLineFlags op => .setTrustLineFlags op.render
  | .liquidityPoolDeposit op => .liquidityPoolDeposit op.render
  | .liquidityPoolWithdraw op => .liquidityPoolWithdraw op.render
  | .invokeHostFunction op => .invokeHostFunction op.render
  | .extendFootprintTtl op => .extendFootprintTtl op.render
  | .restoreFootprint => .restoreFootprint

def Operation.render (p : Operation) : Record.Operation where
  source := p.source.map (·.text)
  body := p.body.render

end LedgerExport.Protocol
