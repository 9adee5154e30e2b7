import LedgerExport.Proofs.Protocol.ValueCodecs
import LedgerExport.Protocol.Transaction

/-!
# Transactions are read back

The codecs of contract calls, operations and transactions are faithful, up to those
of whole envelopes and of what is signed. So an envelope that fits is decoded from
its encoding, and no two of them have the same one.
-/

namespace LedgerExport.Protocol

open Xdr Layout

/-! ## Contract calls -/

theorem InvokeContract.faithful : InvokeContract.layout.Faithful :=
  readBy_make InvokeContract.mk
    |>.field ScAddress.faithful
    |>.field (faithful_octets (by decide))
    |>.field (readBy_many ScVal.faithful)

theorem ContractIdPreimage.faithful : ContractIdPreimage.layout.Faithful := by
  refine readBy_union (fun preimage => ?_) fun preimage => ?_
  · cases preimage <;> exact Nat.le_of_ble_eq_true rfl
  · cases preimage with
    | address a salt => exact (readBy_pair ScAddress.faithful (faithful_fixed 32)).arm rfl rfl
    | asset a => exact Asset.faithful.arm rfl rfl

theorem CreateContract.faithful : CreateContract.layout.Faithful :=
  readBy_make CreateContract.mk
    |>.field ContractIdPreimage.faithful
    |>.field Executable.faithful

theorem CreateContract.faithful_withArguments : CreateContract.withArguments.Faithful :=
  readBy_pair CreateContract.faithful (readBy_many ScVal.faithful)

theorem HostFunction.faithful : HostFunction.layout.Faithful := by
  refine readBy_union (fun function => ?_) fun function => ?_
  · cases function <;> exact Nat.le_of_ble_eq_true rfl
  · cases function with
    | invokeContract call => exact InvokeContract.faithful.arm rfl rfl
    | createContract contract => exact CreateContract.faithful.arm rfl rfl
    | uploadWasm code => exact (faithful_octets (by decide)).arm rfl rfl
    | createContractV2 contract arguments => exact CreateContract.faithful_withArguments.arm rfl rfl

theorem AuthorizedFunction.faithful : AuthorizedFunction.layout.Faithful := by
  refine readBy_union (fun function => ?_) fun function => ?_
  · cases function <;> exact Nat.le_of_ble_eq_true rfl
  · cases function with
    | contract call => exact InvokeContract.faithful.arm rfl rfl
    | createContract c => exact CreateContract.faithful.arm rfl rfl
    | createContractV2 c arguments => exact CreateContract.faithful_withArguments.arm rfl rfl

namespace AuthorizedInvocation

theorem faithful_shape : FaithfulShape shape := by
  intro part part' h
  have hfields : (shape part).ReadBy (shape part') fun tree => .mk tree.function tree.calls :=
    readBy_make AuthorizedInvocation.mk
      |>.field AuthorizedFunction.faithful
      |>.field (readBy_many h)
  exact hfields.congr fun ⟨_, _⟩ => rfl

theorem depthAll_cons_le (call : AuthorizedInvocation) (calls : List AuthorizedInvocation) :
    depthAll (call :: calls) ≤ depth call + depthAll calls := by
  rw [depthAll]
  omega

/-- Each level of a tree counts its branches. -/
theorem spans_shape {part : Codec AuthorizedInvocation} (hpart : part.Spans depth) :
    (shape part).Spans depth := by
  rintro ⟨function, calls⟩ hfits rest
  have hcalls : depthAll calls + 4 + rest.length ≤ _ :=
    spans_many hpart rfl depthAll_cons_le calls hfits.2 rest
  have hfront := (AuthorizedFunction.faithful.prepends function).length_le
    ((many part).write calls rest)
  exact le_trans (by rw [depth]; omega) (hcalls.trans hfront)

theorem faithful : layout.Faithful :=
  faithful_recursive faithful_shape fun _ _ => spans_shape

end AuthorizedInvocation

theorem AddressCredentials.faithful : AddressCredentials.layout.Faithful :=
  readBy_make AddressCredentials.mk
    |>.field ScAddress.faithful
    |>.field faithful_int64
    |>.field faithful_uint32
    |>.field ScVal.faithful

theorem Credentials.faithful : Credentials.layout.Faithful := by
  refine readBy_union (fun credentials => ?_) fun credentials => ?_
  · cases credentials <;> exact Nat.le_of_ble_eq_true rfl
  · cases credentials with
    | sourceAccount => exact Arm.readAs_void rfl
    | address c => exact AddressCredentials.faithful.arm rfl rfl

theorem AuthorizationEntry.faithful : AuthorizationEntry.layout.Faithful :=
  readBy_make AuthorizationEntry.mk
    |>.field Credentials.faithful
    |>.field AuthorizedInvocation.faithful

theorem Footprint.faithful : Footprint.layout.Faithful :=
  readBy_make Footprint.mk
    |>.field (readBy_many LedgerKey.faithful)
    |>.field (readBy_many LedgerKey.faithful)

theorem Resources.faithful : Resources.layout.Faithful :=
  readBy_make Resources.mk
    |>.field Footprint.faithful
    |>.field faithful_uint32
    |>.field faithful_uint32
    |>.field faithful_uint32

theorem SorobanData.faithful : SorobanData.layout.Faithful :=
  readBy_make SorobanData.mk
    |>.field (readBy_extension (by decide) (by decide) (readBy_many faithful_uint32))
    |>.field Resources.faithful
    |>.field faithful_int64

/-! ## Operations -/

theorem CreateAccount.faithful : CreateAccount.layout.Faithful :=
  readBy_make CreateAccount.mk
    |>.field AccountId.faithful
    |>.field faithful_int64

theorem Payment.faithful : Payment.layout.Faithful :=
  readBy_make Payment.mk
    |>.field MuxedAccount.faithful
    |>.field Asset.faithful
    |>.field faithful_int64

theorem PathPaymentStrictReceive.faithful : PathPaymentStrictReceive.layout.Faithful :=
  readBy_make PathPaymentStrictReceive.mk
    |>.field Asset.faithful
    |>.field faithful_int64
    |>.field MuxedAccount.faithful
    |>.field Asset.faithful
    |>.field faithful_int64
    |>.field (readBy_list (by decide) Asset.faithful)

theorem ManageSellOffer.faithful : ManageSellOffer.layout.Faithful :=
  readBy_make ManageSellOffer.mk
    |>.field Asset.faithful
    |>.field Asset.faithful
    |>.field faithful_int64
    |>.field Price.faithful
    |>.field faithful_int64

theorem CreatePassiveSellOffer.faithful : CreatePassiveSellOffer.layout.Faithful :=
  readBy_make CreatePassiveSellOffer.mk
    |>.field Asset.faithful
    |>.field Asset.faithful
    |>.field faithful_int64
    |>.field Price.faithful

theorem SetOptions.faithful : SetOptions.layout.Faithful :=
  readBy_make SetOptions.mk
    |>.field (readBy_optional AccountId.faithful)
    |>.field (readBy_optional faithful_uint32)
    |>.field (readBy_optional faithful_uint32)
    |>.field (readBy_optional faithful_uint32)
    |>.field (readBy_optional faithful_uint32)
    |>.field (readBy_optional faithful_uint32)
    |>.field (readBy_optional faithful_uint32)
    |>.field (readBy_optional (faithful_octets (by decide)))
    |>.field (readBy_optional Signer.faithful)

theorem ChangeTrust.faithful : ChangeTrust.layout.Faithful :=
  readBy_make ChangeTrust.mk
    |>.field ChangeTrustAsset.faithful
    |>.field faithful_int64

theorem AllowTrust.faithful : AllowTrust.layout.Faithful :=
  readBy_make AllowTrust.mk
    |>.field AccountId.faithful
    |>.field AssetCode.faithful
    |>.field faithful_uint32

theorem ManageData.faithful : ManageData.layout.Faithful :=
  readBy_make ManageData.mk
    |>.field (faithful_octets (by decide))
    |>.field (readBy_optional (faithful_octets (by decide)))

theorem BumpSequence.faithful : BumpSequence.layout.Faithful :=
  readBy_make BumpSequence.mk
    |>.field faithful_int64

theorem ManageBuyOffer.faithful : ManageBuyOffer.layout.Faithful :=
  readBy_make ManageBuyOffer.mk
    |>.field Asset.faithful
    |>.field Asset.faithful
    |>.field faithful_int64
    |>.field Price.faithful
    |>.field faithful_int64

theorem PathPaymentStrictSend.faithful : PathPaymentStrictSend.layout.Faithful :=
  readBy_make PathPaymentStrictSend.mk
    |>.field Asset.faithful
    |>.field faithful_int64
    |>.field MuxedAccount.faithful
    |>.field Asset.faithful
    |>.field faithful_int64
    |>.field (readBy_list (by decide) Asset.faithful)

theorem CreateClaimableBalance.faithful : CreateClaimableBalance.layout.Faithful :=
  readBy_make CreateClaimableBalance.mk
    |>.field Asset.faithful
    |>.field faithful_int64
    |>.field (readBy_list (by decide) Claimant.faithful)

theorem BeginSponsoring.faithful : BeginSponsoring.layout.Faithful :=
  readBy_make BeginSponsoring.mk
    |>.field AccountId.faithful

theorem RevokeSponsorship.faithful : RevokeSponsorship.layout.Faithful := by
  refine readBy_union (fun op => ?_) fun op => ?_
  · cases op <;> exact Nat.le_of_ble_eq_true rfl
  · cases op with
    | entry key => exact LedgerKey.faithful.arm rfl rfl
    | signer account key => exact (readBy_pair AccountId.faithful SignerKey.faithful).arm rfl rfl

theorem Clawback.faithful : Clawback.layout.Faithful :=
  readBy_make Clawback.mk
    |>.field Asset.faithful
    |>.field MuxedAccount.faithful
    |>.field faithful_int64

theorem SetTrustLineFlags.faithful : SetTrustLineFlags.layout.Faithful :=
  readBy_make SetTrustLineFlags.mk
    |>.field AccountId.faithful
    |>.field Asset.faithful
    |>.field faithful_uint32
    |>.field faithful_uint32

theorem PoolDeposit.faithful : PoolDeposit.layout.Faithful :=
  readBy_make PoolDeposit.mk
    |>.field PoolId.faithful
    |>.field faithful_int64
    |>.field faithful_int64
    |>.field Price.faithful
    |>.field Price.faithful

theorem PoolWithdraw.faithful : PoolWithdraw.layout.Faithful :=
  readBy_make PoolWithdraw.mk
    |>.field PoolId.faithful
    |>.field faithful_int64
    |>.field faithful_int64
    |>.field faithful_int64

theorem InvokeHostFunction.faithful : InvokeHostFunction.layout.Faithful :=
  readBy_make InvokeHostFunction.mk
    |>.field HostFunction.faithful
    |>.field (readBy_many AuthorizationEntry.faithful)

theorem ExtendFootprint.faithful : ExtendFootprint.layout.Faithful :=
  readBy_make ExtendFootprint.mk
    |>.mark (by decide)
    |>.field faithful_uint32

theorem OperationBody.faithful : OperationBody.layout.Faithful := by
  refine readBy_union (fun body => ?_) fun body => ?_
  · cases body <;> exact Nat.le_of_ble_eq_true rfl
  · cases body with
    | createAccount op => exact CreateAccount.faithful.arm rfl rfl
    | payment op => exact Payment.faithful.arm rfl rfl
    | pathPaymentStrictReceive op => exact PathPaymentStrictReceive.faithful.arm rfl rfl
    | manageSellOffer op => exact ManageSellOffer.faithful.arm rfl rfl
    | createPassiveSellOffer op => exact CreatePassiveSellOffer.faithful.arm rfl rfl
    | setOptions op => exact SetOptions.faithful.arm rfl rfl
    | changeTrust op => exact ChangeTrust.faithful.arm rfl rfl
    | allowTrust op => exact AllowTrust.faithful.arm rfl rfl
    | accountMerge destination => exact MuxedAccount.faithful.arm rfl rfl
    | inflation => exact Arm.readAs_void rfl
    | manageData op => exact ManageData.faithful.arm rfl rfl
    | bumpSequence op => exact BumpSequence.faithful.arm rfl rfl
    | manageBuyOffer op => exact ManageBuyOffer.faithful.arm rfl rfl
    | pathPaymentStrictSend op => exact PathPaymentStrictSend.faithful.arm rfl rfl
    | createClaimableBalance op => exact CreateClaimableBalance.faithful.arm rfl rfl
    | claimClaimableBalance balance => exact BalanceId.faithful.arm rfl rfl
    | beginSponsoringFutureReserves op => exact BeginSponsoring.faithful.arm rfl rfl
    | endSponsoringFutureReserves => exact Arm.readAs_void rfl
    | revokeSponsorship op => exact RevokeSponsorship.faithful.arm rfl rfl
    | clawback op => exact Clawback.faithful.arm rfl rfl
    | clawbackClaimableBalance balance => exact BalanceId.faithful.arm rfl rfl
    | setTrustLineFlags op => exact SetTrustLineFlags.faithful.arm rfl rfl
    | liquidityPoolDeposit op => exact PoolDeposit.faithful.arm rfl rfl
    | liquidityPoolWithdraw op => exact PoolWithdraw.faithful.arm rfl rfl
    | invokeHostFunction op => exact InvokeHostFunction.faithful.arm rfl rfl
    | extendFootprintTtl op => exact ExtendFootprint.faithful.arm rfl rfl
    | restoreFootprint => exact Arm.readAs_mark (by decide) rfl

theorem Operation.faithful : Operation.layout.Faithful :=
  readBy_make Operation.mk
    |>.field (readBy_optional MuxedAccount.faithful)
    |>.field OperationBody.faithful

/-! ## Transactions and envelopes -/

theorem Memo.faithful : Memo.layout.Faithful := by
  refine readBy_union (fun memo => ?_) fun memo => ?_
  · cases memo <;> exact Nat.le_of_ble_eq_true rfl
  · cases memo with
    | none => exact Arm.readAs_void rfl
    | text t => exact (faithful_octets (by decide)).arm rfl rfl
    | id n => exact faithful_uint64.arm rfl rfl
    | hash h => exact (faithful_fixed 32).arm rfl rfl
    | returnHash h => exact (faithful_fixed 32).arm rfl rfl

theorem TimeBounds.faithful : TimeBounds.layout.Faithful :=
  readBy_make TimeBounds.mk
    |>.field faithful_uint64
    |>.field faithful_uint64

theorem LedgerBounds.faithful : LedgerBounds.layout.Faithful :=
  readBy_make LedgerBounds.mk
    |>.field faithful_uint32
    |>.field faithful_uint32

theorem PreconditionsV2.faithful : PreconditionsV2.layout.Faithful :=
  readBy_make PreconditionsV2.mk
    |>.field (readBy_optional TimeBounds.faithful)
    |>.field (readBy_optional LedgerBounds.faithful)
    |>.field (readBy_optional faithful_int64)
    |>.field faithful_uint64
    |>.field faithful_uint32
    |>.field (readBy_list (by decide) SignerKey.faithful)

theorem Preconditions.faithful : Preconditions.layout.Faithful := by
  refine readBy_union (fun conditions => ?_) fun conditions => ?_
  · cases conditions <;> exact Nat.le_of_ble_eq_true rfl
  · cases conditions with
    | none => exact Arm.readAs_void rfl
    | time bounds => exact TimeBounds.faithful.arm rfl rfl
    | v2 conditions => exact PreconditionsV2.faithful.arm rfl rfl

theorem DecoratedSignature.faithful : DecoratedSignature.layout.Faithful :=
  readBy_make DecoratedSignature.mk
    |>.field (faithful_fixed 4)
    |>.field (faithful_octets (by decide))

theorem faithful_signatures : signatures.Faithful :=
  readBy_list (by decide) DecoratedSignature.faithful

theorem Transaction.faithful : Transaction.layout.Faithful :=
  readBy_make Transaction.mk
    |>.field MuxedAccount.faithful
    |>.field faithful_uint32
    |>.field faithful_int64
    |>.field Preconditions.faithful
    |>.field Memo.faithful
    |>.field (readBy_list (by decide) Operation.faithful)
    |>.field (readBy_extension (by decide) (by decide) SorobanData.faithful)

theorem TransactionV0.faithful : TransactionV0.layout.Faithful :=
  readBy_make TransactionV0.mk
    |>.field (faithful_fixed 32)
    |>.field faithful_uint32
    |>.field faithful_int64
    |>.field (readBy_optional TimeBounds.faithful)
    |>.field Memo.faithful
    |>.field (readBy_list (by decide) Operation.faithful)
    |>.mark (by decide)

theorem SignedTransactionV0.faithful : SignedTransactionV0.layout.Faithful :=
  readBy_make SignedTransactionV0.mk
    |>.field TransactionV0.faithful
    |>.field faithful_signatures

theorem SignedTransaction.faithful : SignedTransaction.layout.Faithful :=
  readBy_make SignedTransaction.mk
    |>.field Transaction.faithful
    |>.field faithful_signatures

theorem FeeBump.faithful : FeeBump.layout.Faithful :=
  readBy_make FeeBump.mk
    |>.field MuxedAccount.faithful
    |>.field faithful_int64
    |>.field (faithful_single (by decide) SignedTransaction.faithful)
    |>.mark (by decide)

theorem SignedFeeBump.faithful : SignedFeeBump.layout.Faithful :=
  readBy_make SignedFeeBump.mk
    |>.field FeeBump.faithful
    |>.field faithful_signatures

theorem Envelope.faithful : Envelope.layout.Faithful := by
  refine readBy_union (fun envelope => ?_) fun envelope => ?_
  · cases envelope <;> exact Nat.le_of_ble_eq_true rfl
  · cases envelope with
    | v0 e => exact SignedTransactionV0.faithful.arm rfl rfl
    | v1 e => exact SignedTransaction.faithful.arm rfl rfl
    | feeBump e => exact SignedFeeBump.faithful.arm rfl rfl

theorem TaggedTransaction.faithful : TaggedTransaction.layout.Faithful := by
  refine readBy_union (fun tx => ?_) fun tx => ?_
  · cases tx <;> exact Nat.le_of_ble_eq_true rfl
  · cases tx with
    | tx t => exact Transaction.faithful.arm rfl rfl
    | feeBump t => exact FeeBump.faithful.arm rfl rfl

theorem SignaturePayload.faithful : SignaturePayload.layout.Faithful :=
  readBy_make SignaturePayload.mk
    |>.field (faithful_fixed 32)
    |>.field TaggedTransaction.faithful

end LedgerExport.Protocol
