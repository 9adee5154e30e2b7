import LedgerExport.Proofs.Render.Invocation

/-!
# Operations are known by what is shown of them

Every operation is shown with all its parts and under its own kind, so that two
operations are shown alike only if they are the same.
-/

namespace LedgerExport.Protocol

attribute [ext] CreateAccount Payment PathPaymentStrictReceive ManageSellOffer
  CreatePassiveSellOffer SetOptions ChangeTrust AllowTrust ManageData BumpSequence ManageBuyOffer
  PathPaymentStrictSend CreateClaimableBalance BeginSponsoring Clawback SetTrustLineFlags
  PoolDeposit PoolWithdraw InvokeHostFunction ExtendFootprint Operation

/-! ## Operations without texts -/

theorem CreateAccount.render_injective : Function.Injective CreateAccount.render := by
  intro p p' h
  obtain ⟨hdestination, hstartingBalance⟩ := Record.CreateAccount.mk.inj h
  exact CreateAccount.ext (AccountId.text_injective hdestination) hstartingBalance

theorem BumpSequence.render_injective : Function.Injective BumpSequence.render := by
  intro p p' h
  exact BumpSequence.ext (Record.BumpSequence.mk.inj h)

theorem BeginSponsoring.render_injective : Function.Injective BeginSponsoring.render := by
  intro p p' h
  exact BeginSponsoring.ext (AccountId.text_injective (Record.BeginSponsoring.mk.inj h))

theorem PoolDeposit.render_injective : Function.Injective PoolDeposit.render := by
  intro p p' h
  obtain ⟨hpool, hmaxAmountA, hmaxAmountB, hminPrice, hmaxPrice⟩ := Record.PoolDeposit.mk.inj h
  exact PoolDeposit.ext (PoolId.text_injective hpool) hmaxAmountA hmaxAmountB
    (Price.render_injective hminPrice) (Price.render_injective hmaxPrice)

theorem PoolWithdraw.render_injective : Function.Injective PoolWithdraw.render := by
  intro p p' h
  obtain ⟨hpool, hamount, hminAmountA, hminAmountB⟩ := Record.PoolWithdraw.mk.inj h
  exact PoolWithdraw.ext (PoolId.text_injective hpool) hamount hminAmountA hminAmountB

theorem ExtendFootprint.render_injective : Function.Injective ExtendFootprint.render := by
  intro p p' h
  exact ExtendFootprint.ext (Record.ExtendFootprint.mk.inj h)

/-! ## Payments -/

def Payment.Legible (p : Payment) : Prop :=
  p.asset.Legible

theorem Payment.render_injOn : Set.InjOn Payment.render {p | p.Legible} := by
  intro p hp p' hp' h
  obtain ⟨hdestination, hasset, hamount⟩ := Record.Payment.mk.inj h
  exact Payment.ext (MuxedAccount.text_injective hdestination)
    (Asset.render_injOn hp hp' hasset) hamount

structure PathPaymentStrictReceive.Legible (p : PathPaymentStrictReceive) : Prop where
  sendAsset : p.sendAsset.Legible
  destAsset : p.destAsset.Legible
  path : ∀ asset ∈ p.path, asset.Legible

theorem PathPaymentStrictReceive.render_injOn :
    Set.InjOn PathPaymentStrictReceive.render {p | p.Legible} := by
  intro p hp p' hp' h
  obtain ⟨hsendAsset, hsendMax, hdestination, hdestAsset, hdestAmount, hpath⟩ :=
    Record.PathPaymentStrictReceive.mk.inj h
  exact PathPaymentStrictReceive.ext (Asset.render_injOn hp.sendAsset hp'.sendAsset hsendAsset)
    hsendMax (MuxedAccount.text_injective hdestination)
    (Asset.render_injOn hp.destAsset hp'.destAsset hdestAsset) hdestAmount
    (injOn_list_map Asset.render_injOn hp.path hp'.path hpath)

structure PathPaymentStrictSend.Legible (p : PathPaymentStrictSend) : Prop where
  sendAsset : p.sendAsset.Legible
  destAsset : p.destAsset.Legible
  path : ∀ asset ∈ p.path, asset.Legible

theorem PathPaymentStrictSend.render_injOn :
    Set.InjOn PathPaymentStrictSend.render {p | p.Legible} := by
  intro p hp p' hp' h
  obtain ⟨hsendAsset, hsendAmount, hdestination, hdestAsset, hdestMin, hpath⟩ :=
    Record.PathPaymentStrictSend.mk.inj h
  exact PathPaymentStrictSend.ext (Asset.render_injOn hp.sendAsset hp'.sendAsset hsendAsset)
    hsendAmount (MuxedAccount.text_injective hdestination)
    (Asset.render_injOn hp.destAsset hp'.destAsset hdestAsset) hdestMin
    (injOn_list_map Asset.render_injOn hp.path hp'.path hpath)

def Clawback.Legible (p : Clawback) : Prop :=
  p.asset.Legible

theorem Clawback.render_injOn : Set.InjOn Clawback.render {p | p.Legible} := by
  intro p hp p' hp' h
  obtain ⟨hasset, hholder, hamount⟩ := Record.Clawback.mk.inj h
  exact Clawback.ext (Asset.render_injOn hp hp' hasset) (MuxedAccount.text_injective hholder)
    hamount

def CreateClaimableBalance.Legible (p : CreateClaimableBalance) : Prop :=
  p.asset.Legible

theorem CreateClaimableBalance.render_injOn :
    Set.InjOn CreateClaimableBalance.render {p | p.Legible} := by
  intro p hp p' hp' h
  obtain ⟨hasset, hamount, hclaimants⟩ := Record.CreateClaimableBalance.mk.inj h
  exact CreateClaimableBalance.ext (Asset.render_injOn hp hp' hasset) hamount
    (List.map_injective_iff.mpr Claimant.render_injective hclaimants)

/-! ## Offers -/

structure ManageSellOffer.Legible (p : ManageSellOffer) : Prop where
  selling : p.selling.Legible
  buying : p.buying.Legible

theorem ManageSellOffer.render_injOn : Set.InjOn ManageSellOffer.render {p | p.Legible} := by
  intro p hp p' hp' h
  obtain ⟨hselling, hbuying, hamount, hprice, hofferId⟩ := Record.ManageSellOffer.mk.inj h
  exact ManageSellOffer.ext (Asset.render_injOn hp.selling hp'.selling hselling)
    (Asset.render_injOn hp.buying hp'.buying hbuying) hamount (Price.render_injective hprice)
    hofferId

structure CreatePassiveSellOffer.Legible (p : CreatePassiveSellOffer) : Prop where
  selling : p.selling.Legible
  buying : p.buying.Legible

theorem CreatePassiveSellOffer.render_injOn :
    Set.InjOn CreatePassiveSellOffer.render {p | p.Legible} := by
  intro p hp p' hp' h
  obtain ⟨hselling, hbuying, hamount, hprice⟩ := Record.CreatePassiveSellOffer.mk.inj h
  exact CreatePassiveSellOffer.ext (Asset.render_injOn hp.selling hp'.selling hselling)
    (Asset.render_injOn hp.buying hp'.buying hbuying) hamount (Price.render_injective hprice)

structure ManageBuyOffer.Legible (p : ManageBuyOffer) : Prop where
  selling : p.selling.Legible
  buying : p.buying.Legible

theorem ManageBuyOffer.render_injOn : Set.InjOn ManageBuyOffer.render {p | p.Legible} := by
  intro p hp p' hp' h
  obtain ⟨hselling, hbuying, hbuyAmount, hprice, hofferId⟩ := Record.ManageBuyOffer.mk.inj h
  exact ManageBuyOffer.ext (Asset.render_injOn hp.selling hp'.selling hselling)
    (Asset.render_injOn hp.buying hp'.buying hbuying) hbuyAmount
    (Price.render_injective hprice) hofferId

/-! ## Accounts, trust and data -/

def SetOptions.Legible (p : SetOptions) : Prop :=
  ∀ domain ∈ p.homeDomain, Utf8.WellFormed domain

theorem SetOptions.render_injOn : Set.InjOn SetOptions.render {p | p.Legible} := by
  intro p hp p' hp' h
  obtain ⟨hinflationDest, hclearFlags, hsetFlags, hmasterWeight, hlow, hmed, hhigh, hhomeDomain,
    hsigner⟩ := Record.SetOptions.mk.inj h
  exact SetOptions.ext (Option.map_injective AccountId.text_injective hinflationDest) hclearFlags
    hsetFlags hmasterWeight hlow hmed hhigh
    (injOn_option_map Utf8.lossy_injOn hp hp' hhomeDomain)
    (Option.map_injective Signer.render_injective hsigner)

def ChangeTrust.Legible (p : ChangeTrust) : Prop :=
  p.line.Legible

theorem ChangeTrust.render_injOn : Set.InjOn ChangeTrust.render {p | p.Legible} := by
  intro p hp p' hp' h
  obtain ⟨hline, hlimit⟩ := Record.ChangeTrust.mk.inj h
  exact ChangeTrust.ext (ChangeTrustAsset.render_injOn hp hp' hline) hlimit

def AllowTrust.Legible (p : AllowTrust) : Prop :=
  p.code.Legible

theorem AllowTrust.render_injOn : Set.InjOn AllowTrust.render {p | p.Legible} := by
  intro p hp p' hp' h
  obtain ⟨htrustor, hcode, hauthorize⟩ := Record.AllowTrust.mk.inj h
  exact AllowTrust.ext (AccountId.text_injective htrustor) (AssetCode.text_injOn hp hp' hcode)
    hauthorize

def SetTrustLineFlags.Legible (p : SetTrustLineFlags) : Prop :=
  p.asset.Legible

theorem SetTrustLineFlags.render_injOn : Set.InjOn SetTrustLineFlags.render {p | p.Legible} := by
  intro p hp p' hp' h
  obtain ⟨htrustor, hasset, hclearFlags, hsetFlags⟩ := Record.SetTrustLineFlags.mk.inj h
  exact SetTrustLineFlags.ext (AccountId.text_injective htrustor)
    (Asset.render_injOn hp hp' hasset) hclearFlags hsetFlags

def ManageData.Legible (p : ManageData) : Prop :=
  Utf8.WellFormed p.name

theorem ManageData.render_injOn : Set.InjOn ManageData.render {p | p.Legible} := by
  intro p hp p' hp' h
  obtain ⟨hname, hvalue⟩ := Record.ManageData.mk.inj h
  exact ManageData.ext (Utf8.lossy_injOn hp hp' hname)
    (Option.map_injective Hex.text_injective hvalue)

def RevokeSponsorship.Legible : RevokeSponsorship → Prop
  | .entry key => key.Legible
  | .signer _ _ => True

theorem RevokeSponsorship.render_injOn : Set.InjOn RevokeSponsorship.render {p | p.Legible} := by
  intro p hp p' hp' h
  cases p with
  | entry key =>
      cases p' with
      | entry key' => rw [LedgerKey.render_injOn hp hp' (Record.RevokeSponsorship.entry.inj h)]
      | signer account' key' => cases h
  | signer account key =>
      cases p' with
      | entry key' => cases h
      | signer account' key' =>
          obtain ⟨haccount, hkey⟩ := Record.RevokeSponsorship.signer.inj h
          rw [AccountId.text_injective haccount, SignerKey.render_injective hkey]

structure InvokeHostFunction.Legible (p : InvokeHostFunction) : Prop where
  function : p.function.Legible
  auth : ∀ entry ∈ p.auth, entry.Legible

theorem InvokeHostFunction.render_injOn : Set.InjOn InvokeHostFunction.render {p | p.Legible} := by
  intro p hp p' hp' h
  obtain ⟨hfunction, hauth⟩ := Record.InvokeHostFunction.mk.inj h
  exact InvokeHostFunction.ext (HostFunction.render_injOn hp.function hp'.function hfunction)
    (injOn_list_map AuthorizationEntry.render_injOn hp.auth hp'.auth hauth)

/-! ## Bodies -/

namespace OperationBody

/-- The texts of an operation are well formed and its asset codes are plain. -/
def Legible : OperationBody → Prop
  | .payment op => op.Legible
  | .pathPaymentStrictReceive op => op.Legible
  | .manageSellOffer op => op.Legible
  | .createPassiveSellOffer op => op.Legible
  | .setOptions op => op.Legible
  | .changeTrust op => op.Legible
  | .allowTrust op => op.Legible
  | .manageData op => op.Legible
  | .manageBuyOffer op => op.Legible
  | .pathPaymentStrictSend op => op.Legible
  | .createClaimableBalance op => op.Legible
  | .revokeSponsorship op => op.Legible
  | .clawback op => op.Legible
  | .setTrustLineFlags op => op.Legible
  | .invokeHostFunction op => op.Legible
  | _ => True

theorem render_injOn : Set.InjOn render {body | body.Legible} := by
  intro body hbody body' hbody' h
  cases body with
  | createAccount op =>
      cases body' with
      | createAccount op' =>
          rw [CreateAccount.render_injective (Record.OperationBody.createAccount.inj h)]
      | _ => cases h
  | payment op =>
      cases body' with
      | payment op' => rw [Payment.render_injOn hbody hbody' (Record.OperationBody.payment.inj h)]
      | _ => cases h
  | pathPaymentStrictReceive op =>
      cases body' with
      | pathPaymentStrictReceive op' =>
          have hop := Record.OperationBody.pathPaymentStrictReceive.inj h
          rw [PathPaymentStrictReceive.render_injOn hbody hbody' hop]
      | _ => cases h
  | manageSellOffer op =>
      cases body' with
      | manageSellOffer op' =>
          have hop := Record.OperationBody.manageSellOffer.inj h
          rw [ManageSellOffer.render_injOn hbody hbody' hop]
      | _ => cases h
  | createPassiveSellOffer op =>
      cases body' with
      | createPassiveSellOffer op' =>
          have hop := Record.OperationBody.createPassiveSellOffer.inj h
          rw [CreatePassiveSellOffer.render_injOn hbody hbody' hop]
      | _ => cases h
  | setOptions op =>
      cases body' with
      | setOptions op' =>
          rw [SetOptions.render_injOn hbody hbody' (Record.OperationBody.setOptions.inj h)]
      | _ => cases h
  | changeTrust op =>
      cases body' with
      | changeTrust op' =>
          rw [ChangeTrust.render_injOn hbody hbody' (Record.OperationBody.changeTrust.inj h)]
      | _ => cases h
  | allowTrust op =>
      cases body' with
      | allowTrust op' =>
          rw [AllowTrust.render_injOn hbody hbody' (Record.OperationBody.allowTrust.inj h)]
      | _ => cases h
  | accountMerge destination =>
      cases body' with
      | accountMerge destination' =>
          rw [MuxedAccount.text_injective (Record.OperationBody.accountMerge.inj h)]
      | _ => cases h
  | inflation =>
      cases body' with
      | inflation => rfl
      | _ => cases h
  | manageData op =>
      cases body' with
      | manageData op' =>
          rw [ManageData.render_injOn hbody hbody' (Record.OperationBody.manageData.inj h)]
      | _ => cases h
  | bumpSequence op =>
      cases body' with
      | bumpSequence op' =>
          rw [BumpSequence.render_injective (Record.OperationBody.bumpSequence.inj h)]
      | _ => cases h
  | manageBuyOffer op =>
      cases body' with
      | manageBuyOffer op' =>
          rw [ManageBuyOffer.render_injOn hbody hbody' (Record.OperationBody.manageBuyOffer.inj h)]
      | _ => cases h
  | pathPaymentStrictSend op =>
      cases body' with
      | pathPaymentStrictSend op' =>
          have hop := Record.OperationBody.pathPaymentStrictSend.inj h
          rw [PathPaymentStrictSend.render_injOn hbody hbody' hop]
      | _ => cases h
  | createClaimableBalance op =>
      cases body' with
      | createClaimableBalance op' =>
          have hop := Record.OperationBody.createClaimableBalance.inj h
          rw [CreateClaimableBalance.render_injOn hbody hbody' hop]
      | _ => cases h
  | claimClaimableBalance balance =>
      cases body' with
      | claimClaimableBalance balance' =>
          have hop := Record.OperationBody.claimClaimableBalance.inj h
          rw [BalanceId.text_injective (Record.ClaimableBalanceReference.mk.inj hop)]
      | _ => cases h
  | beginSponsoringFutureReserves op =>
      cases body' with
      | beginSponsoringFutureReserves op' =>
          have hop := Record.OperationBody.beginSponsoringFutureReserves.inj h
          rw [BeginSponsoring.render_injective hop]
      | _ => cases h
  | endSponsoringFutureReserves =>
      cases body' with
      | endSponsoringFutureReserves => rfl
      | _ => cases h
  | revokeSponsorship op =>
      cases body' with
      | revokeSponsorship op' =>
          have hop := Record.OperationBody.revokeSponsorship.inj h
          rw [RevokeSponsorship.render_injOn hbody hbody' hop]
      | _ => cases h
  | clawback op =>
      cases body' with
      | clawback op' =>
          rw [Clawback.render_injOn hbody hbody' (Record.OperationBody.clawback.inj h)]
      | _ => cases h
  | clawbackClaimableBalance balance =>
      cases body' with
      | clawbackClaimableBalance balance' =>
          have hop := Record.OperationBody.clawbackClaimableBalance.inj h
          rw [BalanceId.text_injective (Record.ClaimableBalanceReference.mk.inj hop)]
      | _ => cases h
  | setTrustLineFlags op =>
      cases body' with
      | setTrustLineFlags op' =>
          have hop := Record.OperationBody.setTrustLineFlags.inj h
          rw [SetTrustLineFlags.render_injOn hbody hbody' hop]
      | _ => cases h
  | liquidityPoolDeposit op =>
      cases body' with
      | liquidityPoolDeposit op' =>
          rw [PoolDeposit.render_injective (Record.OperationBody.liquidityPoolDeposit.inj h)]
      | _ => cases h
  | liquidityPoolWithdraw op =>
      cases body' with
      | liquidityPoolWithdraw op' =>
          rw [PoolWithdraw.render_injective (Record.OperationBody.liquidityPoolWithdraw.inj h)]
      | _ => cases h
  | invokeHostFunction op =>
      cases body' with
      | invokeHostFunction op' =>
          have hop := Record.OperationBody.invokeHostFunction.inj h
          rw [InvokeHostFunction.render_injOn hbody hbody' hop]
      | _ => cases h
  | extendFootprintTtl op =>
      cases body' with
      | extendFootprintTtl op' =>
          rw [ExtendFootprint.render_injective (Record.OperationBody.extendFootprintTtl.inj h)]
      | _ => cases h
  | restoreFootprint =>
      cases body' with
      | restoreFootprint => rfl
      | _ => cases h

end OperationBody

def Operation.Legible (p : Operation) : Prop :=
  p.body.Legible

theorem Operation.render_injOn : Set.InjOn Operation.render {p | p.Legible} := by
  intro p hp p' hp' h
  obtain ⟨hsource, hbody⟩ := Record.Operation.mk.inj h
  exact Operation.ext (Option.map_injective MuxedAccount.text_injective hsource)
    (OperationBody.render_injOn hp hp' hbody)

end LedgerExport.Protocol
