import LedgerExport.Protocol.Failure
import LedgerExport.Protocol.Operation

/-!
# Results

What became of a transaction and of its operations. A success carries what its
kind reports; a transaction that was not carried out, or an operation, carries
the reason alone. The result of a fee bump holds the result of what it wraps.
-/

namespace LedgerExport.Protocol

open Xdr

/-! ## Outcomes -/

/-- A success with a payload, or a failure of a table. -/
inductive Outcome (σ : Type) (table : FailureTable)
  | success (payload : σ)
  | failure (failure : Failure table)

/-- The tag of a negative code. -/
def negative (number : Nat) : Nat :=
  0x100000000 - number

/-- Behind the code 0 stands what a success reports, behind other codes nothing. -/
def outcome {σ : Type} (success : Codec σ) (table : FailureTable) : Codec (Outcome σ table) :=
  union
    (fun
      | .success payload => ⟨0, success, payload⟩
      | .failure f => ⟨negative f.number, void, ()⟩)
    (fun
      | 0 => .success <$> success.read
      | tag =>
        match Failure.find? table (0x100000000 - tag) with
        | some f => return .failure f
        | none => throw .invalidValue)

/-- The outcome of a payment through a path; one failure carries an asset. -/
inductive PathOutcome (σ : Type) (table : FailureTable)
  | success (payload : σ)
  | noIssuer (asset : Asset)
  | failure (failure : Failure table)

/-- The number of the failure that carries an asset. -/
def noIssuerNumber : Nat := 9

/-- Behind the code of a missing issuer stands the asset. -/
def pathOutcome {σ : Type} (success : Codec σ) (table : FailureTable) :
    Codec (PathOutcome σ table) :=
  union
    (fun
      | .success payload => ⟨0, success, payload⟩
      | .noIssuer asset => ⟨negative noIssuerNumber, Asset.layout, asset⟩
      | .failure f => ⟨negative f.number, void, ()⟩)
    (fun
      | 0 => .success <$> success.read
      | tag =>
        if tag = negative noIssuerNumber then .noIssuer <$> Asset.layout.read
        else
          match Failure.find? table (0x100000000 - tag) with
          | some f => return .failure f
          | none => throw .invalidValue)

/-! ## What successes report -/

/-- An exchange with an offer, in the oldest form. -/
structure OfferAtomV0 where
  seller : Ed25519
  offerId : Int64
  assetSold : Asset
  amountSold : Int64
  assetBought : Asset
  amountBought : Int64

def OfferAtomV0.layout : Codec OfferAtomV0 :=
  Layout.make OfferAtomV0.mk
    |>.field (fixed 32) (·.seller)
    |>.field int64 (·.offerId)
    |>.field Asset.layout (·.assetSold)
    |>.field int64 (·.amountSold)
    |>.field Asset.layout (·.assetBought)
    |>.field int64 (·.amountBought)

/-- An exchange with an offer of the order book. -/
structure OfferAtom where
  seller : AccountId
  offerId : Int64
  assetSold : Asset
  amountSold : Int64
  assetBought : Asset
  amountBought : Int64

def OfferAtom.layout : Codec OfferAtom :=
  Layout.make OfferAtom.mk
    |>.field AccountId.layout (·.seller)
    |>.field int64 (·.offerId)
    |>.field Asset.layout (·.assetSold)
    |>.field int64 (·.amountSold)
    |>.field Asset.layout (·.assetBought)
    |>.field int64 (·.amountBought)

/-- An exchange with a liquidity pool. -/
structure PoolAtom where
  pool : PoolId
  assetSold : Asset
  amountSold : Int64
  assetBought : Asset
  amountBought : Int64

def PoolAtom.layout : Codec PoolAtom :=
  Layout.make PoolAtom.mk
    |>.field PoolId.layout (·.pool)
    |>.field Asset.layout (·.assetSold)
    |>.field int64 (·.amountSold)
    |>.field Asset.layout (·.assetBought)
    |>.field int64 (·.amountBought)

/-- An exchange. -/
inductive ClaimAtom
  | v0 (atom : OfferAtomV0)
  | orderBook (atom : OfferAtom)
  | liquidityPool (atom : PoolAtom)

def ClaimAtom.layout : Codec ClaimAtom :=
  union
    (fun
      | .v0 atom => ⟨0, OfferAtomV0.layout, atom⟩
      | .orderBook atom => ⟨1, OfferAtom.layout, atom⟩
      | .liquidityPool atom => ⟨2, PoolAtom.layout, atom⟩)
    (fun
      | 0 => .v0 <$> OfferAtomV0.layout.read
      | 1 => .orderBook <$> OfferAtom.layout.read
      | 2 => .liquidityPool <$> PoolAtom.layout.read
      | _ => throw .invalidValue)

/-- What arrived at the end of a path. -/
structure SimplePayment where
  destination : AccountId
  asset : Asset
  amount : Int64

def SimplePayment.layout : Codec SimplePayment :=
  Layout.make SimplePayment.mk
    |>.field AccountId.layout (·.destination)
    |>.field Asset.layout (·.asset)
    |>.field int64 (·.amount)

/-- What a payment through a path exchanged and sent. -/
structure PathSuccess where
  offers : List ClaimAtom
  last : SimplePayment

def PathSuccess.layout : Codec PathSuccess :=
  Layout.make PathSuccess.mk
    |>.field (many ClaimAtom.layout) (·.offers)
    |>.field SimplePayment.layout (·.last)

/-- What became of an offer. -/
inductive OfferEffect
  | created (offer : OfferEntry)
  | updated (offer : OfferEntry)
  | deleted

def OfferEffect.layout : Codec OfferEffect :=
  union
    (fun
      | .created offer => ⟨0, OfferEntry.layout, offer⟩
      | .updated offer => ⟨1, OfferEntry.layout, offer⟩
      | .deleted => ⟨2, void, ()⟩)
    (fun
      | 0 => .created <$> OfferEntry.layout.read
      | 1 => .updated <$> OfferEntry.layout.read
      | 2 => return .deleted
      | _ => throw .invalidValue)

/-- What an offer took, and what is left of it. -/
structure OfferSuccess where
  claimed : List ClaimAtom
  offer : OfferEffect

def OfferSuccess.layout : Codec OfferSuccess :=
  Layout.make OfferSuccess.mk
    |>.field (many ClaimAtom.layout) (·.claimed)
    |>.field OfferEffect.layout (·.offer)

/-- What one account got. -/
structure InflationPayout where
  destination : AccountId
  amount : Int64

def InflationPayout.layout : Codec InflationPayout :=
  Layout.make InflationPayout.mk
    |>.field AccountId.layout (·.destination)
    |>.field int64 (·.amount)

/-! ## Operations -/

/-- The outcome of an operation that was carried out. -/
inductive OperationOutcome
  | createAccount (outcome : Outcome Unit .createAccount)
  | payment (outcome : Outcome Unit .payment)
  | pathPaymentStrictReceive (outcome : PathOutcome PathSuccess .pathPaymentStrictReceive)
  | manageSellOffer (outcome : Outcome OfferSuccess .manageOffer)
  | createPassiveSellOffer (outcome : Outcome OfferSuccess .manageOffer)
  | setOptions (outcome : Outcome Unit .setOptions)
  | changeTrust (outcome : Outcome Unit .changeTrust)
  | allowTrust (outcome : Outcome Unit .allowTrust)
  | accountMerge (outcome : Outcome Int64 .accountMerge)
  | inflation (outcome : Outcome (List InflationPayout) .inflation)
  | manageData (outcome : Outcome Unit .manageData)
  | bumpSequence (outcome : Outcome Unit .bumpSequence)
  | manageBuyOffer (outcome : Outcome OfferSuccess .manageOffer)
  | pathPaymentStrictSend (outcome : PathOutcome PathSuccess .pathPaymentStrictSend)
  | createClaimableBalance (outcome : Outcome BalanceId .createClaimableBalance)
  | claimClaimableBalance (outcome : Outcome Unit .claimClaimableBalance)
  | beginSponsoringFutureReserves (outcome : Outcome Unit .beginSponsoring)
  | endSponsoringFutureReserves (outcome : Outcome Unit .endSponsoring)
  | revokeSponsorship (outcome : Outcome Unit .revokeSponsorship)
  | clawback (outcome : Outcome Unit .clawback)
  | clawbackClaimableBalance (outcome : Outcome Unit .clawbackClaimableBalance)
  | setTrustLineFlags (outcome : Outcome Unit .setTrustLineFlags)
  | liquidityPoolDeposit (outcome : Outcome Unit .poolDeposit)
  | liquidityPoolWithdraw (outcome : Outcome Unit .poolWithdraw)
  | invokeHostFunction (outcome : Outcome Hash .invokeHostFunction)
  | extendFootprintTtl (outcome : Outcome Unit .footprint)
  | restoreFootprint (outcome : Outcome Unit .footprint)

namespace OperationOutcome

/-- The kind of the operation. -/
def kind : OperationOutcome → OperationKind
  | .createAccount _ => .createAccount
  | .payment _ => .payment
  | .pathPaymentStrictReceive _ => .pathPaymentStrictReceive
  | .manageSellOffer _ => .manageSellOffer
  | .createPassiveSellOffer _ => .createPassiveSellOffer
  | .setOptions _ => .setOptions
  | .changeTrust _ => .changeTrust
  | .allowTrust _ => .allowTrust
  | .accountMerge _ => .accountMerge
  | .inflation _ => .inflation
  | .manageData _ => .manageData
  | .bumpSequence _ => .bumpSequence
  | .manageBuyOffer _ => .manageBuyOffer
  | .pathPaymentStrictSend _ => .pathPaymentStrictSend
  | .createClaimableBalance _ => .createClaimableBalance
  | .claimClaimableBalance _ => .claimClaimableBalance
  | .beginSponsoringFutureReserves _ => .beginSponsoringFutureReserves
  | .endSponsoringFutureReserves _ => .endSponsoringFutureReserves
  | .revokeSponsorship _ => .revokeSponsorship
  | .clawback _ => .clawback
  | .clawbackClaimableBalance _ => .clawbackClaimableBalance
  | .setTrustLineFlags _ => .setTrustLineFlags
  | .liquidityPoolDeposit _ => .liquidityPoolDeposit
  | .liquidityPoolWithdraw _ => .liquidityPoolWithdraw
  | .invokeHostFunction _ => .invokeHostFunction
  | .extendFootprintTtl _ => .extendFootprintTtl
  | .restoreFootprint _ => .restoreFootprint

def layout : Codec OperationOutcome :=
  union
    (fun
      | .createAccount o => ⟨0, outcome void .createAccount, o⟩
      | .payment o => ⟨1, outcome void .payment, o⟩
      | .pathPaymentStrictReceive o =>
        ⟨2, pathOutcome PathSuccess.layout .pathPaymentStrictReceive, o⟩
      | .manageSellOffer o => ⟨3, outcome OfferSuccess.layout .manageOffer, o⟩
      | .createPassiveSellOffer o => ⟨4, outcome OfferSuccess.layout .manageOffer, o⟩
      | .setOptions o => ⟨5, outcome void .setOptions, o⟩
      | .changeTrust o => ⟨6, outcome void .changeTrust, o⟩
      | .allowTrust o => ⟨7, outcome void .allowTrust, o⟩
      | .accountMerge o => ⟨8, outcome int64 .accountMerge, o⟩
      | .inflation o => ⟨9, outcome (many InflationPayout.layout) .inflation, o⟩
      | .manageData o => ⟨10, outcome void .manageData, o⟩
      | .bumpSequence o => ⟨11, outcome void .bumpSequence, o⟩
      | .manageBuyOffer o => ⟨12, outcome OfferSuccess.layout .manageOffer, o⟩
      | .pathPaymentStrictSend o => ⟨13, pathOutcome PathSuccess.layout .pathPaymentStrictSend, o⟩
      | .createClaimableBalance o => ⟨14, outcome BalanceId.layout .createClaimableBalance, o⟩
      | .claimClaimableBalance o => ⟨15, outcome void .claimClaimableBalance, o⟩
      | .beginSponsoringFutureReserves o => ⟨16, outcome void .beginSponsoring, o⟩
      | .endSponsoringFutureReserves o => ⟨17, outcome void .endSponsoring, o⟩
      | .revokeSponsorship o => ⟨18, outcome void .revokeSponsorship, o⟩
      | .clawback o => ⟨19, outcome void .clawback, o⟩
      | .clawbackClaimableBalance o => ⟨20, outcome void .clawbackClaimableBalance, o⟩
      | .setTrustLineFlags o => ⟨21, outcome void .setTrustLineFlags, o⟩
      | .liquidityPoolDeposit o => ⟨22, outcome void .poolDeposit, o⟩
      | .liquidityPoolWithdraw o => ⟨23, outcome void .poolWithdraw, o⟩
      | .invokeHostFunction o => ⟨24, outcome (fixed 32) .invokeHostFunction, o⟩
      | .extendFootprintTtl o => ⟨25, outcome void .footprint, o⟩
      | .restoreFootprint o => ⟨26, outcome void .footprint, o⟩)
    (fun
      | 0 => .createAccount <$> (outcome void .createAccount).read
      | 1 => .payment <$> (outcome void .payment).read
      | 2 =>
        .pathPaymentStrictReceive <$>
          (pathOutcome PathSuccess.layout .pathPaymentStrictReceive).read
      | 3 => .manageSellOffer <$> (outcome OfferSuccess.layout .manageOffer).read
      | 4 => .createPassiveSellOffer <$> (outcome OfferSuccess.layout .manageOffer).read
      | 5 => .setOptions <$> (outcome void .setOptions).read
      | 6 => .changeTrust <$> (outcome void .changeTrust).read
      | 7 => .allowTrust <$> (outcome void .allowTrust).read
      | 8 => .accountMerge <$> (outcome int64 .accountMerge).read
      | 9 => .inflation <$> (outcome (many InflationPayout.layout) .inflation).read
      | 10 => .manageData <$> (outcome void .manageData).read
      | 11 => .bumpSequence <$> (outcome void .bumpSequence).read
      | 12 => .manageBuyOffer <$> (outcome OfferSuccess.layout .manageOffer).read
      | 13 =>
        .pathPaymentStrictSend <$> (pathOutcome PathSuccess.layout .pathPaymentStrictSend).read
      | 14 => .createClaimableBalance <$> (outcome BalanceId.layout .createClaimableBalance).read
      | 15 => .claimClaimableBalance <$> (outcome void .claimClaimableBalance).read
      | 16 => .beginSponsoringFutureReserves <$> (outcome void .beginSponsoring).read
      | 17 => .endSponsoringFutureReserves <$> (outcome void .endSponsoring).read
      | 18 => .revokeSponsorship <$> (outcome void .revokeSponsorship).read
      | 19 => .clawback <$> (outcome void .clawback).read
      | 20 => .clawbackClaimableBalance <$> (outcome void .clawbackClaimableBalance).read
      | 21 => .setTrustLineFlags <$> (outcome void .setTrustLineFlags).read
      | 22 => .liquidityPoolDeposit <$> (outcome void .poolDeposit).read
      | 23 => .liquidityPoolWithdraw <$> (outcome void .poolWithdraw).read
      | 24 => .invokeHostFunction <$> (outcome (fixed 32) .invokeHostFunction).read
      | 25 => .extendFootprintTtl <$> (outcome void .footprint).read
      | 26 => .restoreFootprint <$> (outcome void .footprint).read
      | _ => throw .invalidValue)

end OperationOutcome

/-- The result of an operation: the outcome, or why it was not carried out. -/
inductive OperationResult
  | inner (outcome : OperationOutcome)
  | rejected (failure : Failure .operation)

def OperationResult.layout : Codec OperationResult :=
  union
    (fun
      | .inner o => ⟨0, OperationOutcome.layout, o⟩
      | .rejected f => ⟨negative f.number, void, ()⟩)
    (fun
      | 0 => .inner <$> OperationOutcome.layout.read
      | tag =>
        match Failure.find? .operation (0x100000000 - tag) with
        | some f => return .rejected f
        | none => throw .invalidValue)

/-! ## Transactions -/

/-- The outcome of a transaction that wraps no other. -/
inductive PlainOutcome
  | success (results : List OperationResult)
  | failed (results : List OperationResult)
  | rejected (failure : Failure .transaction)

namespace PlainOutcome

/-- The arm of an outcome. -/
def arm : PlainOutcome → Arm
  | .success results => ⟨0, many OperationResult.layout, results⟩
  | .failed results => ⟨negative 1, many OperationResult.layout, results⟩
  | .rejected f => ⟨negative f.number, void, ()⟩

/-- Reads the arm that a tag selects. -/
def readArm (tag : Nat) : Decoder PlainOutcome :=
  if tag = 0 then .success <$> (many OperationResult.layout).read
  else if tag = negative 1 then .failed <$> (many OperationResult.layout).read
  else
    match Failure.find? .transaction (0x100000000 - tag) with
    | some f => return .rejected f
    | none => throw .invalidValue

def layout : Codec PlainOutcome :=
  union arm readArm

end PlainOutcome

/-- The result of what a fee bump wraps. -/
structure InnerResult where
  hash : Hash
  feeCharged : Int64
  outcome : PlainOutcome

def InnerResult.layout : Codec InnerResult :=
  Layout.make InnerResult.mk
    |>.field (fixed 32) (·.hash)
    |>.field int64 (·.feeCharged)
    |>.field PlainOutcome.layout (·.outcome)
    |>.mark 0

/-- The outcome of a transaction; that of a fee bump says whether the wrapped one succeeded. -/
inductive TransactionOutcome
  | plain (outcome : PlainOutcome)
  | feeBump (succeeded : Bool) (inner : InnerResult)

def TransactionOutcome.layout : Codec TransactionOutcome :=
  union
    (fun
      | .plain o => o.arm
      | .feeBump true inner => ⟨1, InnerResult.layout, inner⟩
      | .feeBump false inner => ⟨negative 13, InnerResult.layout, inner⟩)
    (fun tag =>
      if tag = 1 then .feeBump true <$> InnerResult.layout.read
      else if tag = negative 13 then .feeBump false <$> InnerResult.layout.read
      else .plain <$> PlainOutcome.readArm tag)

/-- The result of a transaction. -/
structure TransactionResult where
  feeCharged : Int64
  outcome : TransactionOutcome

def TransactionResult.layout : Codec TransactionResult :=
  Layout.make TransactionResult.mk
    |>.field int64 (·.feeCharged)
    |>.field TransactionOutcome.layout (·.outcome)
    |>.mark 0

/-- A result and the hash of its transaction. -/
structure ResultPair where
  hash : Hash
  result : TransactionResult

def ResultPair.layout : Codec ResultPair :=
  Layout.make ResultPair.mk
    |>.field (fixed 32) (·.hash)
    |>.field TransactionResult.layout (·.result)

end LedgerExport.Protocol
