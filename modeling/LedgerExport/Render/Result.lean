import LedgerExport.Protocol.Result
import LedgerExport.Record.Result
import LedgerExport.Render.Entry

/-!
# Results as they are shown

A result becomes its code and what the code carries. Results are shown beside
their operations: there have to be as many, and of the same kinds.
-/

namespace LedgerExport.Protocol

/-! ## Codes -/

/-- The code of a success. -/
def successCode : Record.ResultCode := ⟨0, "Success"⟩

/-- The code of a failure is its number, negated. -/
def Failure.code {table : FailureTable} (failure : Failure table) : Record.ResultCode :=
  ⟨Int32.ofInt (-failure.number), failure.name⟩

namespace Outcome

variable {σ : Type} {table : FailureTable}

/-- The code of an outcome. -/
def code : Outcome σ table → Record.ResultCode
  | .success _ => successCode
  | .failure f => f.code

/-- What a success reports. -/
def payload? : Outcome σ table → Option σ
  | .success payload => some payload
  | .failure _ => none

end Outcome

/-! ## What codes carry -/

/-- The oldest form shows its key as an account. -/
def OfferAtomV0.render (p : OfferAtomV0) : Record.OfferAtom where
  seller := keyText p.seller
  offerId := p.offerId
  assetSold := p.assetSold.render
  amountSold := p.amountSold
  assetBought := p.assetBought.render
  amountBought := p.amountBought

def OfferAtom.render (p : OfferAtom) : Record.OfferAtom where
  seller := p.seller.text
  offerId := p.offerId
  assetSold := p.assetSold.render
  amountSold := p.amountSold
  assetBought := p.assetBought.render
  amountBought := p.amountBought

def PoolAtom.render (p : PoolAtom) : Record.PoolAtom where
  pool := p.pool.text
  assetSold := p.assetSold.render
  amountSold := p.amountSold
  assetBought := p.assetBought.render
  amountBought := p.amountBought

def ClaimAtom.render : ClaimAtom → Record.ClaimAtom
  | .v0 atom => .v0 atom.render
  | .orderBook atom => .orderBook atom.render
  | .liquidityPool atom => .liquidityPool atom.render

def SimplePayment.render (p : SimplePayment) : Record.SimplePayment where
  destination := p.destination.text
  asset := p.asset.render
  amount := p.amount

def PathSuccess.render (p : PathSuccess) : Record.PathSuccess where
  offers := p.offers.map (·.render)
  last := p.last.render

def OfferEffect.render : OfferEffect → Record.OfferEffect
  | .created offer => .created offer.render
  | .updated offer => .updated offer.render
  | .deleted => .deleted

def OfferSuccess.render (p : OfferSuccess) : Record.OfferSuccess where
  claimed := p.claimed.map (·.render)
  offer := p.offer.render

def InflationPayout.render (p : InflationPayout) : Record.InflationPayout where
  destination := p.destination.text
  amount := p.amount

def PathOutcome.render {table : FailureTable} :
    PathOutcome PathSuccess table → Record.PathResult
  | .success payload => ⟨successCode, some payload.render, none⟩
  | .noIssuer asset =>
    ⟨⟨Int32.ofInt (-noIssuerNumber), "NoIssuer"⟩, none, some asset.render⟩
  | .failure f => ⟨f.code, none, none⟩

/-! ## Operations -/

def OperationOutcome.render : OperationOutcome → Record.OperationOutcome
  | .createAccount o => .createAccount o.code
  | .payment o => .payment o.code
  | .pathPaymentStrictReceive o => .pathPaymentStrictReceive o.render
  | .manageSellOffer o => .manageSellOffer ⟨o.code, o.payload?.map (·.render)⟩
  | .createPassiveSellOffer o => .createPassiveSellOffer ⟨o.code, o.payload?.map (·.render)⟩
  | .setOptions o => .setOptions o.code
  | .changeTrust o => .changeTrust o.code
  | .allowTrust o => .allowTrust o.code
  | .accountMerge o => .accountMerge ⟨o.code, o.payload?⟩
  | .inflation o => .inflation ⟨o.code, o.payload?.map fun ps => ps.map (·.render)⟩
  | .manageData o => .manageData o.code
  | .bumpSequence o => .bumpSequence o.code
  | .manageBuyOffer o => .manageBuyOffer ⟨o.code, o.payload?.map (·.render)⟩
  | .pathPaymentStrictSend o => .pathPaymentStrictSend o.render
  | .createClaimableBalance o => .createClaimableBalance ⟨o.code, o.payload?.map (·.text)⟩
  | .claimClaimableBalance o => .claimClaimableBalance o.code
  | .beginSponsoringFutureReserves o => .beginSponsoringFutureReserves o.code
  | .endSponsoringFutureReserves o => .endSponsoringFutureReserves o.code
  | .revokeSponsorship o => .revokeSponsorship o.code
  | .clawback o => .clawback o.code
  | .clawbackClaimableBalance o => .clawbackClaimableBalance o.code
  | .setTrustLineFlags o => .setTrustLineFlags o.code
  | .liquidityPoolDeposit o => .liquidityPoolDeposit o.code
  | .liquidityPoolWithdraw o => .liquidityPoolWithdraw o.code
  | .invokeHostFunction o => .invokeHostFunction ⟨o.code, o.payload?⟩
  | .extendFootprintTtl o => .extendFootprintTtl o.code
  | .restoreFootprint o => .restoreFootprint o.code

/-- The code of an operation that was carried out. -/
def innerCode : Record.ResultCode := ⟨0, "OpInner"⟩

/-- A result beside an operation, which has to be of the same kind. -/
def OperationResult.render (operation : OperationKind) :
    OperationResult → Except Error Record.OperationResult
  | .inner o =>
    if o.kind = operation then .ok ⟨innerCode, some o.render⟩
    else .error (.resultMismatch operation o.kind)
  | .rejected f => .ok ⟨f.code, none⟩

/-- Results beside operations, in order. -/
def renderResults : List OperationKind → List OperationResult →
    Except Error (List Record.OperationResult)
  | operation :: operations, result :: results => do
    let first ← result.render operation
    return first :: (← renderResults operations results)
  | _, _ => .ok []

/-- Results beside operations, of which there have to be as many. -/
def pairResults (operations : List OperationKind) (results : List OperationResult) :
    Except Error (List Record.OperationResult) :=
  if results.length = operations.length then renderResults operations results
  else .error (.resultCount results.length operations.length)

/-! ## Transactions -/

namespace PlainOutcome

/-- The code of an outcome. -/
def code : PlainOutcome → Record.ResultCode
  | .success _ => ⟨0, "TxSuccess"⟩
  | .failed _ => ⟨-1, "TxFailed"⟩
  | .rejected f => f.code

/-- The results of the operations, if they were carried out. -/
def results? : PlainOutcome → Option (List OperationResult)
  | .success results => some results
  | .failed results => some results
  | .rejected _ => none

/-- The results of the operations beside the operations. -/
def renderResults? (operations : List OperationKind) (outcome : PlainOutcome) :
    Except Error (Option (List Record.OperationResult)) :=
  match outcome.results? with
  | some results => some <$> pairResults operations results
  | none => .ok none

end PlainOutcome

/-- The code of an outcome. -/
def TransactionOutcome.code : TransactionOutcome → Record.ResultCode
  | .plain o => o.code
  | .feeBump true _ => ⟨1, "TxFeeBumpInnerSuccess"⟩
  | .feeBump false _ => ⟨-13, "TxFeeBumpInnerFailed"⟩

/-- A result beside the operations of its transaction. -/
def TransactionResult.render (operations : List OperationKind) (p : TransactionResult) :
    Except Error Record.TransactionResult :=
  match p.outcome with
  | .plain o => do
    let results ← o.renderResults? operations
    return ⟨p.feeCharged, p.outcome.code, none, results⟩
  | .feeBump _ inner => do
    let results ← inner.outcome.renderResults? operations
    return ⟨p.feeCharged, p.outcome.code,
      some ⟨inner.hash, inner.feeCharged, inner.outcome.code, results⟩, none⟩

end LedgerExport.Protocol
