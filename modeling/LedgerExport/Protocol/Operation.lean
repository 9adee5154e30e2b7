import LedgerExport.Protocol.Invocation

/-!
# Operations

The operations that a transaction is made of, each with a body of its kind and
perhaps a source account of its own.
-/

namespace LedgerExport.Protocol

open Xdr

/-- The kind of an operation. -/
inductive OperationKind
  | createAccount
  | payment
  | pathPaymentStrictReceive
  | manageSellOffer
  | createPassiveSellOffer
  | setOptions
  | changeTrust
  | allowTrust
  | accountMerge
  | inflation
  | manageData
  | bumpSequence
  | manageBuyOffer
  | pathPaymentStrictSend
  | createClaimableBalance
  | claimClaimableBalance
  | beginSponsoringFutureReserves
  | endSponsoringFutureReserves
  | revokeSponsorship
  | clawback
  | clawbackClaimableBalance
  | setTrustLineFlags
  | liquidityPoolDeposit
  | liquidityPoolWithdraw
  | invokeHostFunction
  | extendFootprintTtl
  | restoreFootprint
deriving DecidableEq

namespace OperationKind

/-- The number of a kind. -/
def code (kind : OperationKind) : Nat :=
  kind.ctorIdx

/-- The name shown for a kind. -/
def name : OperationKind → String
  | createAccount => "CreateAccount"
  | payment => "Payment"
  | pathPaymentStrictReceive => "PathPaymentStrictReceive"
  | manageSellOffer => "ManageSellOffer"
  | createPassiveSellOffer => "CreatePassiveSellOffer"
  | setOptions => "SetOptions"
  | changeTrust => "ChangeTrust"
  | allowTrust => "AllowTrust"
  | accountMerge => "AccountMerge"
  | inflation => "Inflation"
  | manageData => "ManageData"
  | bumpSequence => "BumpSequence"
  | manageBuyOffer => "ManageBuyOffer"
  | pathPaymentStrictSend => "PathPaymentStrictSend"
  | createClaimableBalance => "CreateClaimableBalance"
  | claimClaimableBalance => "ClaimClaimableBalance"
  | beginSponsoringFutureReserves => "BeginSponsoringFutureReserves"
  | endSponsoringFutureReserves => "EndSponsoringFutureReserves"
  | revokeSponsorship => "RevokeSponsorship"
  | clawback => "Clawback"
  | clawbackClaimableBalance => "ClawbackClaimableBalance"
  | setTrustLineFlags => "SetTrustLineFlags"
  | liquidityPoolDeposit => "LiquidityPoolDeposit"
  | liquidityPoolWithdraw => "LiquidityPoolWithdraw"
  | invokeHostFunction => "InvokeHostFunction"
  | extendFootprintTtl => "ExtendFootprintTtl"
  | restoreFootprint => "RestoreFootprint"

end OperationKind

/-! ## Bodies -/

/-- Funds a new account. -/
structure CreateAccount where
  destination : AccountId
  startingBalance : Int64

def CreateAccount.layout : Codec CreateAccount :=
  Layout.make CreateAccount.mk
    |>.field AccountId.layout (·.destination)
    |>.field int64 (·.startingBalance)

/-- Sends an amount of an asset. -/
structure Payment where
  destination : MuxedAccount
  asset : Asset
  amount : Int64

def Payment.layout : Codec Payment :=
  Layout.make Payment.mk
    |>.field MuxedAccount.layout (·.destination)
    |>.field Asset.layout (·.asset)
    |>.field int64 (·.amount)

/-- Sends through a path of offers so that a fixed amount arrives. -/
structure PathPaymentStrictReceive where
  sendAsset : Asset
  sendMax : Int64
  destination : MuxedAccount
  destAsset : Asset
  destAmount : Int64
  path : List Asset

def PathPaymentStrictReceive.layout : Codec PathPaymentStrictReceive :=
  Layout.make PathPaymentStrictReceive.mk
    |>.field Asset.layout (·.sendAsset)
    |>.field int64 (·.sendMax)
    |>.field MuxedAccount.layout (·.destination)
    |>.field Asset.layout (·.destAsset)
    |>.field int64 (·.destAmount)
    |>.field (list 5 Asset.layout) (·.path)

/-- Makes, changes or deletes an offer to sell. -/
structure ManageSellOffer where
  selling : Asset
  buying : Asset
  amount : Int64
  price : Price
  offerId : Int64

def ManageSellOffer.layout : Codec ManageSellOffer :=
  Layout.make ManageSellOffer.mk
    |>.field Asset.layout (·.selling)
    |>.field Asset.layout (·.buying)
    |>.field int64 (·.amount)
    |>.field Price.layout (·.price)
    |>.field int64 (·.offerId)

/-- Makes an offer that does not take another of the same price. -/
structure CreatePassiveSellOffer where
  selling : Asset
  buying : Asset
  amount : Int64
  price : Price

def CreatePassiveSellOffer.layout : Codec CreatePassiveSellOffer :=
  Layout.make CreatePassiveSellOffer.mk
    |>.field Asset.layout (·.selling)
    |>.field Asset.layout (·.buying)
    |>.field int64 (·.amount)
    |>.field Price.layout (·.price)

/-- Changes what is set for an account. -/
structure SetOptions where
  inflationDest : Option AccountId
  clearFlags : Option UInt32
  setFlags : Option UInt32
  masterWeight : Option UInt32
  lowThreshold : Option UInt32
  medThreshold : Option UInt32
  highThreshold : Option UInt32
  homeDomain : Option Octets
  signer : Option Signer

def SetOptions.layout : Codec SetOptions :=
  Layout.make SetOptions.mk
    |>.field (optional AccountId.layout) (·.inflationDest)
    |>.field (optional uint32) (·.clearFlags)
    |>.field (optional uint32) (·.setFlags)
    |>.field (optional uint32) (·.masterWeight)
    |>.field (optional uint32) (·.lowThreshold)
    |>.field (optional uint32) (·.medThreshold)
    |>.field (optional uint32) (·.highThreshold)
    |>.field (optional (octets 32)) (·.homeDomain)
    |>.field (optional Signer.layout) (·.signer)

/-- Sets the limit of a trust line. -/
structure ChangeTrust where
  line : ChangeTrustAsset
  limit : Int64

def ChangeTrust.layout : Codec ChangeTrust :=
  Layout.make ChangeTrust.mk
    |>.field ChangeTrustAsset.layout (·.line)
    |>.field int64 (·.limit)

/-- Lets a trust line hold an asset of the source, or stops it. -/
structure AllowTrust where
  trustor : AccountId
  code : AssetCode
  authorize : UInt32

def AllowTrust.layout : Codec AllowTrust :=
  Layout.make AllowTrust.mk
    |>.field AccountId.layout (·.trustor)
    |>.field AssetCode.layout (·.code)
    |>.field uint32 (·.authorize)

/-- Sets or deletes a named value. -/
structure ManageData where
  name : Octets
  value : Option Octets

def ManageData.layout : Codec ManageData :=
  Layout.make ManageData.mk
    |>.field (octets 64) (·.name)
    |>.field (optional (octets 64)) (·.value)

/-- Moves the sequence number of an account forward. -/
structure BumpSequence where
  bumpTo : Int64

def BumpSequence.layout : Codec BumpSequence :=
  Layout.make BumpSequence.mk
    |>.field int64 (·.bumpTo)

/-- Makes, changes or deletes an offer to buy. -/
structure ManageBuyOffer where
  selling : Asset
  buying : Asset
  buyAmount : Int64
  price : Price
  offerId : Int64

def ManageBuyOffer.layout : Codec ManageBuyOffer :=
  Layout.make ManageBuyOffer.mk
    |>.field Asset.layout (·.selling)
    |>.field Asset.layout (·.buying)
    |>.field int64 (·.buyAmount)
    |>.field Price.layout (·.price)
    |>.field int64 (·.offerId)

/-- Sends a fixed amount through a path of offers. -/
structure PathPaymentStrictSend where
  sendAsset : Asset
  sendAmount : Int64
  destination : MuxedAccount
  destAsset : Asset
  destMin : Int64
  path : List Asset

def PathPaymentStrictSend.layout : Codec PathPaymentStrictSend :=
  Layout.make PathPaymentStrictSend.mk
    |>.field Asset.layout (·.sendAsset)
    |>.field int64 (·.sendAmount)
    |>.field MuxedAccount.layout (·.destination)
    |>.field Asset.layout (·.destAsset)
    |>.field int64 (·.destMin)
    |>.field (list 5 Asset.layout) (·.path)

/-- Puts an amount aside for claimants. -/
structure CreateClaimableBalance where
  asset : Asset
  amount : Int64
  claimants : List Claimant

def CreateClaimableBalance.layout : Codec CreateClaimableBalance :=
  Layout.make CreateClaimableBalance.mk
    |>.field Asset.layout (·.asset)
    |>.field int64 (·.amount)
    |>.field (list 10 Claimant.layout) (·.claimants)

/-- Starts to pay the reserves of another account. -/
structure BeginSponsoring where
  sponsored : AccountId

def BeginSponsoring.layout : Codec BeginSponsoring :=
  Layout.make BeginSponsoring.mk
    |>.field AccountId.layout (·.sponsored)

/-- Makes the owner pay the reserve of an entry or a signer again. -/
inductive RevokeSponsorship
  | entry (key : LedgerKey)
  | signer (account : AccountId) (key : SignerKey)

def RevokeSponsorship.layout : Codec RevokeSponsorship :=
  union
    (fun
      | .entry key => ⟨0, LedgerKey.layout, key⟩
      | .signer account key => ⟨1, pair AccountId.layout SignerKey.layout, (account, key)⟩)
    (fun
      | 0 => .entry <$> LedgerKey.layout.read
      | 1 => (fun (account, key) => .signer account key) <$>
          (pair AccountId.layout SignerKey.layout).read
      | _ => throw .invalidValue)

/-- Takes back an amount of an asset. -/
structure Clawback where
  asset : Asset
  holder : MuxedAccount
  amount : Int64

def Clawback.layout : Codec Clawback :=
  Layout.make Clawback.mk
    |>.field Asset.layout (·.asset)
    |>.field MuxedAccount.layout (·.holder)
    |>.field int64 (·.amount)

/-- Changes the flags of a trust line. -/
structure SetTrustLineFlags where
  trustor : AccountId
  asset : Asset
  clearFlags : UInt32
  setFlags : UInt32

def SetTrustLineFlags.layout : Codec SetTrustLineFlags :=
  Layout.make SetTrustLineFlags.mk
    |>.field AccountId.layout (·.trustor)
    |>.field Asset.layout (·.asset)
    |>.field uint32 (·.clearFlags)
    |>.field uint32 (·.setFlags)

/-- Puts amounts into a liquidity pool. -/
structure PoolDeposit where
  pool : PoolId
  maxAmountA : Int64
  maxAmountB : Int64
  minPrice : Price
  maxPrice : Price

def PoolDeposit.layout : Codec PoolDeposit :=
  Layout.make PoolDeposit.mk
    |>.field PoolId.layout (·.pool)
    |>.field int64 (·.maxAmountA)
    |>.field int64 (·.maxAmountB)
    |>.field Price.layout (·.minPrice)
    |>.field Price.layout (·.maxPrice)

/-- Takes amounts out of a liquidity pool. -/
structure PoolWithdraw where
  pool : PoolId
  amount : Int64
  minAmountA : Int64
  minAmountB : Int64

def PoolWithdraw.layout : Codec PoolWithdraw :=
  Layout.make PoolWithdraw.mk
    |>.field PoolId.layout (·.pool)
    |>.field int64 (·.amount)
    |>.field int64 (·.minAmountA)
    |>.field int64 (·.minAmountB)

/-- Calls the host of contracts. -/
structure InvokeHostFunction where
  function : HostFunction
  auth : List AuthorizationEntry

def InvokeHostFunction.layout : Codec InvokeHostFunction :=
  Layout.make InvokeHostFunction.mk
    |>.field HostFunction.layout (·.function)
    |>.field (many AuthorizationEntry.layout) (·.auth)

/-- Makes the entries of a footprint live longer. -/
structure ExtendFootprint where
  extendTo : UInt32

def ExtendFootprint.layout : Codec ExtendFootprint :=
  Layout.make ExtendFootprint.mk
    |>.mark 0
    |>.field uint32 (·.extendTo)

/-! ## Operations -/

/-- What an operation does. -/
inductive OperationBody
  | createAccount (op : CreateAccount)
  | payment (op : Payment)
  | pathPaymentStrictReceive (op : PathPaymentStrictReceive)
  | manageSellOffer (op : ManageSellOffer)
  | createPassiveSellOffer (op : CreatePassiveSellOffer)
  | setOptions (op : SetOptions)
  | changeTrust (op : ChangeTrust)
  | allowTrust (op : AllowTrust)
  | accountMerge (destination : MuxedAccount)
  | inflation
  | manageData (op : ManageData)
  | bumpSequence (op : BumpSequence)
  | manageBuyOffer (op : ManageBuyOffer)
  | pathPaymentStrictSend (op : PathPaymentStrictSend)
  | createClaimableBalance (op : CreateClaimableBalance)
  | claimClaimableBalance (balance : BalanceId)
  | beginSponsoringFutureReserves (op : BeginSponsoring)
  | endSponsoringFutureReserves
  | revokeSponsorship (op : RevokeSponsorship)
  | clawback (op : Clawback)
  | clawbackClaimableBalance (balance : BalanceId)
  | setTrustLineFlags (op : SetTrustLineFlags)
  | liquidityPoolDeposit (op : PoolDeposit)
  | liquidityPoolWithdraw (op : PoolWithdraw)
  | invokeHostFunction (op : InvokeHostFunction)
  | extendFootprintTtl (op : ExtendFootprint)
  | restoreFootprint

namespace OperationBody

/-- The kind of a body. -/
def kind : OperationBody → OperationKind
  | .createAccount _ => .createAccount
  | .payment _ => .payment
  | .pathPaymentStrictReceive _ => .pathPaymentStrictReceive
  | .manageSellOffer _ => .manageSellOffer
  | .createPassiveSellOffer _ => .createPassiveSellOffer
  | .setOptions _ => .setOptions
  | .changeTrust _ => .changeTrust
  | .allowTrust _ => .allowTrust
  | .accountMerge _ => .accountMerge
  | .inflation => .inflation
  | .manageData _ => .manageData
  | .bumpSequence _ => .bumpSequence
  | .manageBuyOffer _ => .manageBuyOffer
  | .pathPaymentStrictSend _ => .pathPaymentStrictSend
  | .createClaimableBalance _ => .createClaimableBalance
  | .claimClaimableBalance _ => .claimClaimableBalance
  | .beginSponsoringFutureReserves _ => .beginSponsoringFutureReserves
  | .endSponsoringFutureReserves => .endSponsoringFutureReserves
  | .revokeSponsorship _ => .revokeSponsorship
  | .clawback _ => .clawback
  | .clawbackClaimableBalance _ => .clawbackClaimableBalance
  | .setTrustLineFlags _ => .setTrustLineFlags
  | .liquidityPoolDeposit _ => .liquidityPoolDeposit
  | .liquidityPoolWithdraw _ => .liquidityPoolWithdraw
  | .invokeHostFunction _ => .invokeHostFunction
  | .extendFootprintTtl _ => .extendFootprintTtl
  | .restoreFootprint => .restoreFootprint

def layout : Codec OperationBody :=
  union
    (fun
      | .createAccount op => ⟨0, CreateAccount.layout, op⟩
      | .payment op => ⟨1, Payment.layout, op⟩
      | .pathPaymentStrictReceive op => ⟨2, PathPaymentStrictReceive.layout, op⟩
      | .manageSellOffer op => ⟨3, ManageSellOffer.layout, op⟩
      | .createPassiveSellOffer op => ⟨4, CreatePassiveSellOffer.layout, op⟩
      | .setOptions op => ⟨5, SetOptions.layout, op⟩
      | .changeTrust op => ⟨6, ChangeTrust.layout, op⟩
      | .allowTrust op => ⟨7, AllowTrust.layout, op⟩
      | .accountMerge destination => ⟨8, MuxedAccount.layout, destination⟩
      | .inflation => ⟨9, void, ()⟩
      | .manageData op => ⟨10, ManageData.layout, op⟩
      | .bumpSequence op => ⟨11, BumpSequence.layout, op⟩
      | .manageBuyOffer op => ⟨12, ManageBuyOffer.layout, op⟩
      | .pathPaymentStrictSend op => ⟨13, PathPaymentStrictSend.layout, op⟩
      | .createClaimableBalance op => ⟨14, CreateClaimableBalance.layout, op⟩
      | .claimClaimableBalance balance => ⟨15, BalanceId.layout, balance⟩
      | .beginSponsoringFutureReserves op => ⟨16, BeginSponsoring.layout, op⟩
      | .endSponsoringFutureReserves => ⟨17, void, ()⟩
      | .revokeSponsorship op => ⟨18, RevokeSponsorship.layout, op⟩
      | .clawback op => ⟨19, Clawback.layout, op⟩
      | .clawbackClaimableBalance balance => ⟨20, BalanceId.layout, balance⟩
      | .setTrustLineFlags op => ⟨21, SetTrustLineFlags.layout, op⟩
      | .liquidityPoolDeposit op => ⟨22, PoolDeposit.layout, op⟩
      | .liquidityPoolWithdraw op => ⟨23, PoolWithdraw.layout, op⟩
      | .invokeHostFunction op => ⟨24, InvokeHostFunction.layout, op⟩
      | .extendFootprintTtl op => ⟨25, ExtendFootprint.layout, op⟩
      | .restoreFootprint => ⟨26, Layout.make () |>.mark 0, ()⟩)
    (fun
      | 0 => .createAccount <$> CreateAccount.layout.read
      | 1 => .payment <$> Payment.layout.read
      | 2 => .pathPaymentStrictReceive <$> PathPaymentStrictReceive.layout.read
      | 3 => .manageSellOffer <$> ManageSellOffer.layout.read
      | 4 => .createPassiveSellOffer <$> CreatePassiveSellOffer.layout.read
      | 5 => .setOptions <$> SetOptions.layout.read
      | 6 => .changeTrust <$> ChangeTrust.layout.read
      | 7 => .allowTrust <$> AllowTrust.layout.read
      | 8 => .accountMerge <$> MuxedAccount.layout.read
      | 9 => return .inflation
      | 10 => .manageData <$> ManageData.layout.read
      | 11 => .bumpSequence <$> BumpSequence.layout.read
      | 12 => .manageBuyOffer <$> ManageBuyOffer.layout.read
      | 13 => .pathPaymentStrictSend <$> PathPaymentStrictSend.layout.read
      | 14 => .createClaimableBalance <$> CreateClaimableBalance.layout.read
      | 15 => .claimClaimableBalance <$> BalanceId.layout.read
      | 16 => .beginSponsoringFutureReserves <$> BeginSponsoring.layout.read
      | 17 => return .endSponsoringFutureReserves
      | 18 => .revokeSponsorship <$> RevokeSponsorship.layout.read
      | 19 => .clawback <$> Clawback.layout.read
      | 20 => .clawbackClaimableBalance <$> BalanceId.layout.read
      | 21 => .setTrustLineFlags <$> SetTrustLineFlags.layout.read
      | 22 => .liquidityPoolDeposit <$> PoolDeposit.layout.read
      | 23 => .liquidityPoolWithdraw <$> PoolWithdraw.layout.read
      | 24 => .invokeHostFunction <$> InvokeHostFunction.layout.read
      | 25 => .extendFootprintTtl <$> ExtendFootprint.layout.read
      | 26 => (Layout.make .restoreFootprint |>.mark 0 : Codec OperationBody).read
      | _ => throw .invalidValue)

end OperationBody

/-- An operation, with a source of its own or that of its transaction. -/
structure Operation where
  source : Option MuxedAccount
  body : OperationBody

def Operation.layout : Codec Operation :=
  Layout.make Operation.mk
    |>.field (optional MuxedAccount.layout) (·.source)
    |>.field OperationBody.layout (·.body)

end LedgerExport.Protocol
