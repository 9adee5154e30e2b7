import LedgerExport.Record.Entry

/-!
# Results as records

A result is its code with what the code carries: a field for each thing that
some code carries, absent under all other codes.
-/

namespace LedgerExport.Record

open Form

/-- The number and the name of a code. -/
structure ResultCode where
  code : Int32
  name : String

def ResultCode.form : Form ResultCode :=
  record <| Fields.make ResultCode.mk
    |>.field "code" int32 (·.code)
    |>.field "name" text (·.name)

/-! ## What codes carry -/

/-- An exchange with an offer of the order book. -/
structure OfferAtom where
  seller : String
  offerId : Int64
  assetSold : Asset
  amountSold : Int64
  assetBought : Asset
  amountBought : Int64

def OfferAtom.form : Form OfferAtom :=
  record <| Fields.make OfferAtom.mk
    |>.field "seller_id" text (·.seller)
    |>.field "offer_id" int64 (·.offerId)
    |>.field "asset_sold" Asset.form (·.assetSold)
    |>.field "amount_sold" int64 (·.amountSold)
    |>.field "asset_bought" Asset.form (·.assetBought)
    |>.field "amount_bought" int64 (·.amountBought)

/-- An exchange with a liquidity pool. -/
structure PoolAtom where
  pool : String
  assetSold : Asset
  amountSold : Int64
  assetBought : Asset
  amountBought : Int64

def PoolAtom.form : Form PoolAtom :=
  record <| Fields.make PoolAtom.mk
    |>.field "liquidity_pool_id" text (·.pool)
    |>.field "asset_sold" Asset.form (·.assetSold)
    |>.field "amount_sold" int64 (·.amountSold)
    |>.field "asset_bought" Asset.form (·.assetBought)
    |>.field "amount_bought" int64 (·.amountBought)

/-- An exchange. -/
inductive ClaimAtom
  | v0 (atom : OfferAtom)
  | orderBook (atom : OfferAtom)
  | liquidityPool (atom : PoolAtom)

def ClaimAtom.form : Form ClaimAtom :=
  tagged
    (fun
      | .v0 atom => ⟨"v0", value OfferAtom.form, atom⟩
      | .orderBook atom => ⟨"order_book", value OfferAtom.form, atom⟩
      | .liquidityPool atom => ⟨"liquidity_pool", value PoolAtom.form, atom⟩)
    (fun
      | "v0" => (value OfferAtom.form).into .v0
      | "order_book" => (value OfferAtom.form).into .orderBook
      | "liquidity_pool" => (value PoolAtom.form).into .liquidityPool
      | _ => fun _ => none)

/-- What arrived at the end of a path. -/
structure SimplePayment where
  destination : String
  asset : Asset
  amount : Int64

def SimplePayment.form : Form SimplePayment :=
  record <| Fields.make SimplePayment.mk
    |>.field "destination" text (·.destination)
    |>.field "asset" Asset.form (·.asset)
    |>.field "amount" int64 (·.amount)

/-- What a payment through a path exchanged and sent. -/
structure PathSuccess where
  offers : List ClaimAtom
  last : SimplePayment

def PathSuccess.form : Form PathSuccess :=
  record <| Fields.make PathSuccess.mk
    |>.field "offers" (list ClaimAtom.form) (·.offers)
    |>.field "last" SimplePayment.form (·.last)

/-- What became of an offer. -/
inductive OfferEffect
  | created (offer : OfferEntry)
  | updated (offer : OfferEntry)
  | deleted

def OfferEffect.form : Form OfferEffect :=
  tagged
    (fun
      | .created offer => ⟨"created", value OfferEntry.form, offer⟩
      | .updated offer => ⟨"updated", value OfferEntry.form, offer⟩
      | .deleted => ⟨"deleted", unit, ()⟩)
    (fun
      | "created" => (value OfferEntry.form).into .created
      | "updated" => (value OfferEntry.form).into .updated
      | "deleted" => unit.into fun _ => .deleted
      | _ => fun _ => none)

/-- What an offer took, and what is left of it. -/
structure OfferSuccess where
  claimed : List ClaimAtom
  offer : OfferEffect

def OfferSuccess.form : Form OfferSuccess :=
  record <| Fields.make OfferSuccess.mk
    |>.field "offers_claimed" (list ClaimAtom.form) (·.claimed)
    |>.field "offer" OfferEffect.form (·.offer)

/-- What one account got. -/
structure InflationPayout where
  destination : String
  amount : Int64

def InflationPayout.form : Form InflationPayout :=
  record <| Fields.make InflationPayout.mk
    |>.field "destination" text (·.destination)
    |>.field "amount" int64 (·.amount)

/-- The result of a payment through a path. -/
structure PathResult where
  code : ResultCode
  success : Option PathSuccess
  noIssuer : Option Asset

def PathResult.form : Form PathResult :=
  record <| Fields.make PathResult.mk
    |>.field "code" ResultCode.form (·.code)
    |>.field "success" (option PathSuccess.form) (·.success)
    |>.field "no_issuer" (option Asset.form) (·.noIssuer)

/-- The result of an offer. -/
structure OfferResult where
  code : ResultCode
  success : Option OfferSuccess

def OfferResult.form : Form OfferResult :=
  record <| Fields.make OfferResult.mk
    |>.field "code" ResultCode.form (·.code)
    |>.field "success" (option OfferSuccess.form) (·.success)

/-- The result of a merge, with the balance that was moved. -/
structure MergeResult where
  code : ResultCode
  balance : Option Int64

def MergeResult.form : Form MergeResult :=
  record <| Fields.make MergeResult.mk
    |>.field "code" ResultCode.form (·.code)
    |>.field "source_account_balance" (option int64) (·.balance)

/-- The result of an inflation. -/
structure InflationResult where
  code : ResultCode
  payouts : Option (List InflationPayout)

def InflationResult.form : Form InflationResult :=
  record <| Fields.make InflationResult.mk
    |>.field "code" ResultCode.form (·.code)
    |>.field "payouts" (option (list InflationPayout.form)) (·.payouts)

/-- The result of putting an amount aside, with what names it. -/
structure NewBalanceResult where
  code : ResultCode
  balance : Option String

def NewBalanceResult.form : Form NewBalanceResult :=
  record <| Fields.make NewBalanceResult.mk
    |>.field "code" ResultCode.form (·.code)
    |>.field "balance_id" (option text) (·.balance)

/-- The result of a call of the host, with the hash of what it gave. -/
structure HostResult where
  code : ResultCode
  success : Option Hash

def HostResult.form : Form HostResult :=
  record <| Fields.make HostResult.mk
    |>.field "code" ResultCode.form (·.code)
    |>.field "success" (option hash) (·.success)

/-! ## Operations -/

/-- The outcome of an operation that was carried out. -/
inductive OperationOutcome
  | createAccount (code : ResultCode)
  | payment (code : ResultCode)
  | pathPaymentStrictReceive (result : PathResult)
  | manageSellOffer (result : OfferResult)
  | createPassiveSellOffer (result : OfferResult)
  | setOptions (code : ResultCode)
  | changeTrust (code : ResultCode)
  | allowTrust (code : ResultCode)
  | accountMerge (result : MergeResult)
  | inflation (result : InflationResult)
  | manageData (code : ResultCode)
  | bumpSequence (code : ResultCode)
  | manageBuyOffer (result : OfferResult)
  | pathPaymentStrictSend (result : PathResult)
  | createClaimableBalance (result : NewBalanceResult)
  | claimClaimableBalance (code : ResultCode)
  | beginSponsoringFutureReserves (code : ResultCode)
  | endSponsoringFutureReserves (code : ResultCode)
  | revokeSponsorship (code : ResultCode)
  | clawback (code : ResultCode)
  | clawbackClaimableBalance (code : ResultCode)
  | setTrustLineFlags (code : ResultCode)
  | liquidityPoolDeposit (code : ResultCode)
  | liquidityPoolWithdraw (code : ResultCode)
  | invokeHostFunction (result : HostResult)
  | extendFootprintTtl (code : ResultCode)
  | restoreFootprint (code : ResultCode)

namespace OperationOutcome

/-- The code of an outcome. -/
def code : OperationOutcome → ResultCode
  | .createAccount c => c
  | .payment c => c
  | .pathPaymentStrictReceive r => r.code
  | .manageSellOffer r => r.code
  | .createPassiveSellOffer r => r.code
  | .setOptions c => c
  | .changeTrust c => c
  | .allowTrust c => c
  | .accountMerge r => r.code
  | .inflation r => r.code
  | .manageData c => c
  | .bumpSequence c => c
  | .manageBuyOffer r => r.code
  | .pathPaymentStrictSend r => r.code
  | .createClaimableBalance r => r.code
  | .claimClaimableBalance c => c
  | .beginSponsoringFutureReserves c => c
  | .endSponsoringFutureReserves c => c
  | .revokeSponsorship c => c
  | .clawback c => c
  | .clawbackClaimableBalance c => c
  | .setTrustLineFlags c => c
  | .liquidityPoolDeposit c => c
  | .liquidityPoolWithdraw c => c
  | .invokeHostFunction r => r.code
  | .extendFootprintTtl c => c
  | .restoreFootprint c => c

def form : Form OperationOutcome :=
  tagged
    (fun
      | .createAccount r => ⟨"create_account", value ResultCode.form, r⟩
      | .payment r => ⟨"payment", value ResultCode.form, r⟩
      | .pathPaymentStrictReceive r => ⟨"path_payment_strict_receive", value PathResult.form, r⟩
      | .manageSellOffer r => ⟨"manage_sell_offer", value OfferResult.form, r⟩
      | .createPassiveSellOffer r => ⟨"create_passive_sell_offer", value OfferResult.form, r⟩
      | .setOptions r => ⟨"set_options", value ResultCode.form, r⟩
      | .changeTrust r => ⟨"change_trust", value ResultCode.form, r⟩
      | .allowTrust r => ⟨"allow_trust", value ResultCode.form, r⟩
      | .accountMerge r => ⟨"account_merge", value MergeResult.form, r⟩
      | .inflation r => ⟨"inflation", value InflationResult.form, r⟩
      | .manageData r => ⟨"manage_data", value ResultCode.form, r⟩
      | .bumpSequence r => ⟨"bump_sequence", value ResultCode.form, r⟩
      | .manageBuyOffer r => ⟨"manage_buy_offer", value OfferResult.form, r⟩
      | .pathPaymentStrictSend r => ⟨"path_payment_strict_send", value PathResult.form, r⟩
      | .createClaimableBalance r => ⟨"create_claimable_balance", value NewBalanceResult.form, r⟩
      | .claimClaimableBalance r => ⟨"claim_claimable_balance", value ResultCode.form, r⟩
      | .beginSponsoringFutureReserves r =>
        ⟨"begin_sponsoring_future_reserves", value ResultCode.form, r⟩
      | .endSponsoringFutureReserves r =>
        ⟨"end_sponsoring_future_reserves", value ResultCode.form, r⟩
      | .revokeSponsorship r => ⟨"revoke_sponsorship", value ResultCode.form, r⟩
      | .clawback r => ⟨"clawback", value ResultCode.form, r⟩
      | .clawbackClaimableBalance r => ⟨"clawback_claimable_balance", value ResultCode.form, r⟩
      | .setTrustLineFlags r => ⟨"set_trust_line_flags", value ResultCode.form, r⟩
      | .liquidityPoolDeposit r => ⟨"liquidity_pool_deposit", value ResultCode.form, r⟩
      | .liquidityPoolWithdraw r => ⟨"liquidity_pool_withdraw", value ResultCode.form, r⟩
      | .invokeHostFunction r => ⟨"invoke_host_function", value HostResult.form, r⟩
      | .extendFootprintTtl r => ⟨"extend_footprint_ttl", value ResultCode.form, r⟩
      | .restoreFootprint r => ⟨"restore_footprint", value ResultCode.form, r⟩)
    (fun
      | "create_account" => (value ResultCode.form).into .createAccount
      | "payment" => (value ResultCode.form).into .payment
      | "path_payment_strict_receive" => (value PathResult.form).into .pathPaymentStrictReceive
      | "manage_sell_offer" => (value OfferResult.form).into .manageSellOffer
      | "create_passive_sell_offer" => (value OfferResult.form).into .createPassiveSellOffer
      | "set_options" => (value ResultCode.form).into .setOptions
      | "change_trust" => (value ResultCode.form).into .changeTrust
      | "allow_trust" => (value ResultCode.form).into .allowTrust
      | "account_merge" => (value MergeResult.form).into .accountMerge
      | "inflation" => (value InflationResult.form).into .inflation
      | "manage_data" => (value ResultCode.form).into .manageData
      | "bump_sequence" => (value ResultCode.form).into .bumpSequence
      | "manage_buy_offer" => (value OfferResult.form).into .manageBuyOffer
      | "path_payment_strict_send" => (value PathResult.form).into .pathPaymentStrictSend
      | "create_claimable_balance" => (value NewBalanceResult.form).into .createClaimableBalance
      | "claim_claimable_balance" => (value ResultCode.form).into .claimClaimableBalance
      | "begin_sponsoring_future_reserves" =>
        (value ResultCode.form).into .beginSponsoringFutureReserves
      | "end_sponsoring_future_reserves" =>
        (value ResultCode.form).into .endSponsoringFutureReserves
      | "revoke_sponsorship" => (value ResultCode.form).into .revokeSponsorship
      | "clawback" => (value ResultCode.form).into .clawback
      | "clawback_claimable_balance" => (value ResultCode.form).into .clawbackClaimableBalance
      | "set_trust_line_flags" => (value ResultCode.form).into .setTrustLineFlags
      | "liquidity_pool_deposit" => (value ResultCode.form).into .liquidityPoolDeposit
      | "liquidity_pool_withdraw" => (value ResultCode.form).into .liquidityPoolWithdraw
      | "invoke_host_function" => (value HostResult.form).into .invokeHostFunction
      | "extend_footprint_ttl" => (value ResultCode.form).into .extendFootprintTtl
      | "restore_footprint" => (value ResultCode.form).into .restoreFootprint
      | _ => fun _ => none)

end OperationOutcome

/-- The result of an operation; there is an outcome only if it was carried out. -/
structure OperationResult where
  code : ResultCode
  body : Option OperationOutcome

namespace OperationResult

/-- Whether an operation was carried out and succeeded. -/
def isSuccess (result : OperationResult) : Bool :=
  result.body.any fun outcome => outcome.code.code == 0

def form : Form OperationResult :=
  record <| Fields.make OperationResult.mk
    |>.field "code" ResultCode.form (·.code)
    |>.field "body" (option OperationOutcome.form) (·.body)

end OperationResult

/-! ## Transactions -/

/-- The result of what a fee bump wraps. -/
structure InnerResult where
  hash : Hash
  feeCharged : Int64
  code : ResultCode
  operationResults : Option (List OperationResult)

def InnerResult.form : Form InnerResult :=
  record <| Fields.make InnerResult.mk
    |>.field "transaction_hash" Form.hash (·.hash)
    |>.field "fee_charged" int64 (·.feeCharged)
    |>.field "code" ResultCode.form (·.code)
    |>.field "operation_results" (option (list OperationResult.form)) (·.operationResults)

/-- The result of a transaction. -/
structure TransactionResult where
  feeCharged : Int64
  code : ResultCode
  inner : Option InnerResult
  operationResults : Option (List OperationResult)

namespace TransactionResult

/-- Whether a transaction succeeded; of a fee bump, whether what it wraps did. -/
def isSuccess (result : TransactionResult) : Bool :=
  match result.inner with
  | some inner => inner.code.code == 0
  | none => result.code.code == 0

/-- The results of the operations; of a fee bump, of the operations that it wraps. -/
def effectiveResults (result : TransactionResult) : Option (List OperationResult) :=
  match result.inner with
  | some inner => inner.operationResults
  | none => result.operationResults

def form : Form TransactionResult :=
  record <| Fields.make TransactionResult.mk
    |>.field "fee_charged" int64 (·.feeCharged)
    |>.field "code" ResultCode.form (·.code)
    |>.field "inner" (option InnerResult.form) (·.inner)
    |>.field "operation_results" (option (list OperationResult.form)) (·.operationResults)

end TransactionResult

end LedgerExport.Record
