import LedgerExport.Record.Invocation

/-!
# Operations as records

The operations of a transaction, with accounts, pools and balances by their
texts.
-/

namespace LedgerExport.Record

open Form

/-! ## Bodies -/

/-- Funds a new account. -/
structure CreateAccount where
  destination : String
  startingBalance : Int64

def CreateAccount.form : Form CreateAccount :=
  record <| Fields.make CreateAccount.mk
    |>.field "destination" text (·.destination)
    |>.field "starting_balance" int64 (·.startingBalance)

/-- Sends an amount of an asset. -/
structure Payment where
  destination : String
  asset : Asset
  amount : Int64

def Payment.form : Form Payment :=
  record <| Fields.make Payment.mk
    |>.field "destination" text (·.destination)
    |>.field "asset" Asset.form (·.asset)
    |>.field "amount" int64 (·.amount)

/-- Sends through a path of offers so that a fixed amount arrives. -/
structure PathPaymentStrictReceive where
  sendAsset : Asset
  sendMax : Int64
  destination : String
  destAsset : Asset
  destAmount : Int64
  path : List Asset

def PathPaymentStrictReceive.form : Form PathPaymentStrictReceive :=
  record <| Fields.make PathPaymentStrictReceive.mk
    |>.field "send_asset" Asset.form (·.sendAsset)
    |>.field "send_max" int64 (·.sendMax)
    |>.field "destination" text (·.destination)
    |>.field "dest_asset" Asset.form (·.destAsset)
    |>.field "dest_amount" int64 (·.destAmount)
    |>.field "path" (list Asset.form) (·.path)

/-- Makes, changes or deletes an offer to sell. -/
structure ManageSellOffer where
  selling : Asset
  buying : Asset
  amount : Int64
  price : Price
  offerId : Int64

def ManageSellOffer.form : Form ManageSellOffer :=
  record <| Fields.make ManageSellOffer.mk
    |>.field "selling" Asset.form (·.selling)
    |>.field "buying" Asset.form (·.buying)
    |>.field "amount" int64 (·.amount)
    |>.field "price" Price.form (·.price)
    |>.field "offer_id" int64 (·.offerId)

/-- Makes an offer that does not take another of the same price. -/
structure CreatePassiveSellOffer where
  selling : Asset
  buying : Asset
  amount : Int64
  price : Price

def CreatePassiveSellOffer.form : Form CreatePassiveSellOffer :=
  record <| Fields.make CreatePassiveSellOffer.mk
    |>.field "selling" Asset.form (·.selling)
    |>.field "buying" Asset.form (·.buying)
    |>.field "amount" int64 (·.amount)
    |>.field "price" Price.form (·.price)

/-- Changes what is set for an account. -/
structure SetOptions where
  inflationDest : Option String
  clearFlags : Option UInt32
  setFlags : Option UInt32
  masterWeight : Option UInt32
  lowThreshold : Option UInt32
  medThreshold : Option UInt32
  highThreshold : Option UInt32
  homeDomain : Option String
  signer : Option Signer

def SetOptions.form : Form SetOptions :=
  record <| Fields.make SetOptions.mk
    |>.field "inflation_dest" (option text) (·.inflationDest)
    |>.field "clear_flags" (option uint32) (·.clearFlags)
    |>.field "set_flags" (option uint32) (·.setFlags)
    |>.field "master_weight" (option uint32) (·.masterWeight)
    |>.field "low_threshold" (option uint32) (·.lowThreshold)
    |>.field "med_threshold" (option uint32) (·.medThreshold)
    |>.field "high_threshold" (option uint32) (·.highThreshold)
    |>.field "home_domain" (option text) (·.homeDomain)
    |>.field "signer" (option Signer.form) (·.signer)

/-- Sets the limit of a trust line. -/
structure ChangeTrust where
  line : ChangeTrustAsset
  limit : Int64

def ChangeTrust.form : Form ChangeTrust :=
  record <| Fields.make ChangeTrust.mk
    |>.field "line" ChangeTrustAsset.form (·.line)
    |>.field "limit" int64 (·.limit)

/-- Lets a trust line hold an asset of the source, or stops it. -/
structure AllowTrust where
  trustor : String
  code : String
  authorize : UInt32

def AllowTrust.form : Form AllowTrust :=
  record <| Fields.make AllowTrust.mk
    |>.field "trustor" text (·.trustor)
    |>.field "asset_code" text (·.code)
    |>.field "authorize" uint32 (·.authorize)

/-- Sets or deletes a named value. -/
structure ManageData where
  name : String
  value : Option String

def ManageData.form : Form ManageData :=
  record <| Fields.make ManageData.mk
    |>.field "data_name" text (·.name)
    |>.field "data_value" (option text) (·.value)

/-- Moves the sequence number of an account forward. -/
structure BumpSequence where
  bumpTo : Int64

def BumpSequence.form : Form BumpSequence :=
  record <| Fields.make BumpSequence.mk
    |>.field "bump_to" int64 (·.bumpTo)

/-- Makes, changes or deletes an offer to buy. -/
structure ManageBuyOffer where
  selling : Asset
  buying : Asset
  buyAmount : Int64
  price : Price
  offerId : Int64

def ManageBuyOffer.form : Form ManageBuyOffer :=
  record <| Fields.make ManageBuyOffer.mk
    |>.field "selling" Asset.form (·.selling)
    |>.field "buying" Asset.form (·.buying)
    |>.field "buy_amount" int64 (·.buyAmount)
    |>.field "price" Price.form (·.price)
    |>.field "offer_id" int64 (·.offerId)

/-- Sends a fixed amount through a path of offers. -/
structure PathPaymentStrictSend where
  sendAsset : Asset
  sendAmount : Int64
  destination : String
  destAsset : Asset
  destMin : Int64
  path : List Asset

def PathPaymentStrictSend.form : Form PathPaymentStrictSend :=
  record <| Fields.make PathPaymentStrictSend.mk
    |>.field "send_asset" Asset.form (·.sendAsset)
    |>.field "send_amount" int64 (·.sendAmount)
    |>.field "destination" text (·.destination)
    |>.field "dest_asset" Asset.form (·.destAsset)
    |>.field "dest_min" int64 (·.destMin)
    |>.field "path" (list Asset.form) (·.path)

/-- Puts an amount aside for claimants. -/
structure CreateClaimableBalance where
  asset : Asset
  amount : Int64
  claimants : List Claimant

def CreateClaimableBalance.form : Form CreateClaimableBalance :=
  record <| Fields.make CreateClaimableBalance.mk
    |>.field "asset" Asset.form (·.asset)
    |>.field "amount" int64 (·.amount)
    |>.field "claimants" (list Claimant.form) (·.claimants)

/-- Names a claimable balance. -/
structure ClaimableBalanceReference where
  balance : String

def ClaimableBalanceReference.form : Form ClaimableBalanceReference :=
  record <| Fields.make ClaimableBalanceReference.mk
    |>.field "balance_id" text (·.balance)

/-- Starts to pay the reserves of another account. -/
structure BeginSponsoring where
  sponsored : String

def BeginSponsoring.form : Form BeginSponsoring :=
  record <| Fields.make BeginSponsoring.mk
    |>.field "sponsored_id" text (·.sponsored)

/-- Makes the owner pay the reserve of an entry or a signer again. -/
inductive RevokeSponsorship
  | entry (key : LedgerKey)
  | signer (account : String) (key : SignerKey)

namespace RevokeSponsorship

/-- An account and one of its signers. -/
def signerFields : Fields (String × SignerKey) (String × SignerKey) :=
  Fields.make Prod.mk |>.field "account_id" text (·.1) |>.field "signer_key" SignerKey.form (·.2)

def form : Form RevokeSponsorship :=
  tagged
    (fun
      | .entry key => ⟨"ledger_entry", value LedgerKey.form, key⟩
      | .signer account key => ⟨"signer", named signerFields, (account, key)⟩)
    (fun
      | "ledger_entry" => (value LedgerKey.form).into .entry
      | "signer" => (named signerFields).into fun (account, key) => .signer account key
      | _ => fun _ => none)

end RevokeSponsorship

/-- Takes back an amount of an asset. -/
structure Clawback where
  asset : Asset
  holder : String
  amount : Int64

def Clawback.form : Form Clawback :=
  record <| Fields.make Clawback.mk
    |>.field "asset" Asset.form (·.asset)
    |>.field "from" text (·.holder)
    |>.field "amount" int64 (·.amount)

/-- Changes the flags of a trust line. -/
structure SetTrustLineFlags where
  trustor : String
  asset : Asset
  clearFlags : UInt32
  setFlags : UInt32

def SetTrustLineFlags.form : Form SetTrustLineFlags :=
  record <| Fields.make SetTrustLineFlags.mk
    |>.field "trustor" text (·.trustor)
    |>.field "asset" Asset.form (·.asset)
    |>.field "clear_flags" uint32 (·.clearFlags)
    |>.field "set_flags" uint32 (·.setFlags)

/-- Puts amounts into a liquidity pool. -/
structure PoolDeposit where
  pool : String
  maxAmountA : Int64
  maxAmountB : Int64
  minPrice : Price
  maxPrice : Price

def PoolDeposit.form : Form PoolDeposit :=
  record <| Fields.make PoolDeposit.mk
    |>.field "liquidity_pool_id" text (·.pool)
    |>.field "max_amount_a" int64 (·.maxAmountA)
    |>.field "max_amount_b" int64 (·.maxAmountB)
    |>.field "min_price" Price.form (·.minPrice)
    |>.field "max_price" Price.form (·.maxPrice)

/-- Takes amounts out of a liquidity pool. -/
structure PoolWithdraw where
  pool : String
  amount : Int64
  minAmountA : Int64
  minAmountB : Int64

def PoolWithdraw.form : Form PoolWithdraw :=
  record <| Fields.make PoolWithdraw.mk
    |>.field "liquidity_pool_id" text (·.pool)
    |>.field "amount" int64 (·.amount)
    |>.field "min_amount_a" int64 (·.minAmountA)
    |>.field "min_amount_b" int64 (·.minAmountB)

/-- Calls the host of contracts. -/
structure InvokeHostFunction where
  function : HostFunction
  auth : List AuthorizationEntry

def InvokeHostFunction.form : Form InvokeHostFunction :=
  record <| Fields.make InvokeHostFunction.mk
    |>.field "host_function" HostFunction.form (·.function)
    |>.field "auth" (list AuthorizationEntry.form) (·.auth)

/-- Makes the entries of a footprint live longer. -/
structure ExtendFootprint where
  extendTo : UInt32

def ExtendFootprint.form : Form ExtendFootprint :=
  record <| Fields.make ExtendFootprint.mk
    |>.field "extend_to" uint32 (·.extendTo)

/-! ## Operations -/

/-- What an operation does. -/
inductive OperationBody
  | createAccount (op : CreateAccount)
  | payment (op : Payment)
  | pathPaymentStrictReceive (op : PathPaymentStrictReceive)
  | manageSellOffer (op : ManageSellOffer)
  | createPassiveSellOffer (op : CreatePassiveSellOffer)
  | setOptions (op : SetOptions)
  | changeTrust (op : ChangeTrust)
  | allowTrust (op : AllowTrust)
  | accountMerge (destination : String)
  | inflation
  | manageData (op : ManageData)
  | bumpSequence (op : BumpSequence)
  | manageBuyOffer (op : ManageBuyOffer)
  | pathPaymentStrictSend (op : PathPaymentStrictSend)
  | createClaimableBalance (op : CreateClaimableBalance)
  | claimClaimableBalance (op : ClaimableBalanceReference)
  | beginSponsoringFutureReserves (op : BeginSponsoring)
  | endSponsoringFutureReserves
  | revokeSponsorship (op : RevokeSponsorship)
  | clawback (op : Clawback)
  | clawbackClaimableBalance (op : ClaimableBalanceReference)
  | setTrustLineFlags (op : SetTrustLineFlags)
  | liquidityPoolDeposit (op : PoolDeposit)
  | liquidityPoolWithdraw (op : PoolWithdraw)
  | invokeHostFunction (op : InvokeHostFunction)
  | extendFootprintTtl (op : ExtendFootprint)
  | restoreFootprint

namespace OperationBody

/-- Whether an operation goes to the host of contracts. -/
def isSoroban : OperationBody → Bool
  | .invokeHostFunction _ => true
  | .extendFootprintTtl _ => true
  | .restoreFootprint => true
  | _ => false

def form : Form OperationBody :=
  tagged
    (fun
      | .createAccount op => ⟨"create_account", value CreateAccount.form, op⟩
      | .payment op => ⟨"payment", value Payment.form, op⟩
      | .pathPaymentStrictReceive op =>
        ⟨"path_payment_strict_receive", value PathPaymentStrictReceive.form, op⟩
      | .manageSellOffer op => ⟨"manage_sell_offer", value ManageSellOffer.form, op⟩
      | .createPassiveSellOffer op =>
        ⟨"create_passive_sell_offer", value CreatePassiveSellOffer.form, op⟩
      | .setOptions op => ⟨"set_options", value SetOptions.form, op⟩
      | .changeTrust op => ⟨"change_trust", value ChangeTrust.form, op⟩
      | .allowTrust op => ⟨"allow_trust", value AllowTrust.form, op⟩
      | .accountMerge destination => ⟨"account_merge", value text, destination⟩
      | .inflation => ⟨"inflation", unit, ()⟩
      | .manageData op => ⟨"manage_data", value ManageData.form, op⟩
      | .bumpSequence op => ⟨"bump_sequence", value BumpSequence.form, op⟩
      | .manageBuyOffer op => ⟨"manage_buy_offer", value ManageBuyOffer.form, op⟩
      | .pathPaymentStrictSend op =>
        ⟨"path_payment_strict_send", value PathPaymentStrictSend.form, op⟩
      | .createClaimableBalance op =>
        ⟨"create_claimable_balance", value CreateClaimableBalance.form, op⟩
      | .claimClaimableBalance op =>
        ⟨"claim_claimable_balance", value ClaimableBalanceReference.form, op⟩
      | .beginSponsoringFutureReserves op =>
        ⟨"begin_sponsoring_future_reserves", value BeginSponsoring.form, op⟩
      | .endSponsoringFutureReserves => ⟨"end_sponsoring_future_reserves", unit, ()⟩
      | .revokeSponsorship op => ⟨"revoke_sponsorship", value RevokeSponsorship.form, op⟩
      | .clawback op => ⟨"clawback", value Clawback.form, op⟩
      | .clawbackClaimableBalance op =>
        ⟨"clawback_claimable_balance", value ClaimableBalanceReference.form, op⟩
      | .setTrustLineFlags op => ⟨"set_trust_line_flags", value SetTrustLineFlags.form, op⟩
      | .liquidityPoolDeposit op => ⟨"liquidity_pool_deposit", value PoolDeposit.form, op⟩
      | .liquidityPoolWithdraw op => ⟨"liquidity_pool_withdraw", value PoolWithdraw.form, op⟩
      | .invokeHostFunction op => ⟨"invoke_host_function", value InvokeHostFunction.form, op⟩
      | .extendFootprintTtl op => ⟨"extend_footprint_ttl", value ExtendFootprint.form, op⟩
      | .restoreFootprint => ⟨"restore_footprint", unit, ()⟩)
    (fun
      | "create_account" => (value CreateAccount.form).into .createAccount
      | "payment" => (value Payment.form).into .payment
      | "path_payment_strict_receive" =>
        (value PathPaymentStrictReceive.form).into .pathPaymentStrictReceive
      | "manage_sell_offer" => (value ManageSellOffer.form).into .manageSellOffer
      | "create_passive_sell_offer" =>
        (value CreatePassiveSellOffer.form).into .createPassiveSellOffer
      | "set_options" => (value SetOptions.form).into .setOptions
      | "change_trust" => (value ChangeTrust.form).into .changeTrust
      | "allow_trust" => (value AllowTrust.form).into .allowTrust
      | "account_merge" => (value text).into .accountMerge
      | "inflation" => unit.into fun _ => .inflation
      | "manage_data" => (value ManageData.form).into .manageData
      | "bump_sequence" => (value BumpSequence.form).into .bumpSequence
      | "manage_buy_offer" => (value ManageBuyOffer.form).into .manageBuyOffer
      | "path_payment_strict_send" => (value PathPaymentStrictSend.form).into .pathPaymentStrictSend
      | "create_claimable_balance" =>
        (value CreateClaimableBalance.form).into .createClaimableBalance
      | "claim_claimable_balance" =>
        (value ClaimableBalanceReference.form).into .claimClaimableBalance
      | "begin_sponsoring_future_reserves" =>
        (value BeginSponsoring.form).into .beginSponsoringFutureReserves
      | "end_sponsoring_future_reserves" => unit.into fun _ => .endSponsoringFutureReserves
      | "revoke_sponsorship" => (value RevokeSponsorship.form).into .revokeSponsorship
      | "clawback" => (value Clawback.form).into .clawback
      | "clawback_claimable_balance" =>
        (value ClaimableBalanceReference.form).into .clawbackClaimableBalance
      | "set_trust_line_flags" => (value SetTrustLineFlags.form).into .setTrustLineFlags
      | "liquidity_pool_deposit" => (value PoolDeposit.form).into .liquidityPoolDeposit
      | "liquidity_pool_withdraw" => (value PoolWithdraw.form).into .liquidityPoolWithdraw
      | "invoke_host_function" => (value InvokeHostFunction.form).into .invokeHostFunction
      | "extend_footprint_ttl" => (value ExtendFootprint.form).into .extendFootprintTtl
      | "restore_footprint" => unit.into fun _ => .restoreFootprint
      | _ => fun _ => none)

end OperationBody

/-- An operation, with a source of its own or that of its transaction. -/
structure Operation where
  source : Option String
  body : OperationBody

def Operation.form : Form Operation :=
  record <| Fields.make Operation.mk
    |>.field "source_account" (option text) (·.source)
    |>.field "body" OperationBody.form (·.body)

end LedgerExport.Record
