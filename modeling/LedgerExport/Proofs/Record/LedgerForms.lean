import LedgerExport.Proofs.Position.EventId
import LedgerExport.Proofs.Record.ValueForms
import LedgerExport.Record.Ledger

/-!
# Ledgers are read back

The forms of contract calls, operations, envelopes, events and results are faithful,
and so is that of a whole ledger: what is written of a record is read as that record.
-/

namespace LedgerExport.Record

open Form

/-! ## Contract calls -/

instance InvokeContract.nonNull : form.NonNull :=
  nonNull_record (by decide) fun _ => rfl

namespace ContractIdPreimage

instance faithful_address : (named addressFields).Faithful :=
  faithful_named (by decide) fun _ => rfl

instance nonNull : form.NonNull :=
  nonNull_tagged fun preimage => by cases preimage <;> exact .of_kind rfl rfl

end ContractIdPreimage

instance CreateContract.nonNull : form.NonNull :=
  nonNull_record (by decide) fun _ => rfl

instance HostFunction.nonNull : form.NonNull :=
  nonNull_tagged fun function => by cases function <;> exact .of_kind rfl rfl

instance AuthorizedFunction.nonNull : form.NonNull :=
  nonNull_tagged fun function => by cases function <;> exact .of_kind rfl rfl

namespace AuthorizedInvocation

theorem greatest_depthAll : Greatest depth depthAll where
  nil := rfl
  cons _ _ := rfl

theorem depth_pos (tree : AuthorizedInvocation) : 0 < depth tree := by
  cases tree
  exact Nat.succ_pos _

theorem faithful_shape : FaithfulShape shape depth := by
  rintro part part' ⟨function, calls⟩ - h
  have hcalls : (list part).ReadBy (list part') calls :=
    .list fun call hcall => h call (Nat.lt_succ_of_le (greatest_depthAll.le hcall))
  exact readBy_record (by decide) <| Fields.readBy_make AuthorizedInvocation.mk
    |>.field (Faithful.readBy function)
    |>.field hcalls

theorem deep_shape : DeepShape shape depth := by
  rintro part ⟨function, calls⟩ h
  have hcalls : depthAll calls < ((list part).write calls).depth :=
    lt_depth_list greatest_depthAll fun call hcall =>
      h call (Nat.lt_succ_of_le (greatest_depthAll.le hcall))
  have hmember : ((list part).write calls).depth <
      ((shape part).write (.mk function calls)).depth :=
    Json.depth_lt_depth_obj (m := ("sub_invocations", _))
      (List.mem_cons_of_mem _ (List.mem_singleton_self _))
  exact hcalls.trans_le (Nat.le_of_lt hmember)

instance nonNull : form.NonNull :=
  nonNull_recursive depth_pos faithful_shape deep_shape fun _ => rfl

end AuthorizedInvocation

instance AddressCredentials.nonNull : form.NonNull :=
  nonNull_record (by decide) fun _ => rfl

instance Credentials.nonNull : form.NonNull :=
  nonNull_tagged fun credentials => by cases credentials <;> exact .of_kind rfl rfl

instance AuthorizationEntry.nonNull : form.NonNull :=
  nonNull_record (by decide) fun _ => rfl

instance Footprint.nonNull : form.NonNull :=
  nonNull_record (by decide) fun _ => rfl

instance Resources.nonNull : form.NonNull :=
  nonNull_record (by decide) fun _ => rfl

instance SorobanData.nonNull : form.NonNull :=
  nonNull_record (by decide) fun _ => rfl

/-! ## Operations and envelopes -/

instance CreateAccount.nonNull : form.NonNull :=
  nonNull_record (by decide) fun _ => rfl

instance Payment.nonNull : form.NonNull :=
  nonNull_record (by decide) fun _ => rfl

instance PathPaymentStrictReceive.nonNull : form.NonNull :=
  nonNull_record (by decide) fun _ => rfl

instance ManageSellOffer.nonNull : form.NonNull :=
  nonNull_record (by decide) fun _ => rfl

instance CreatePassiveSellOffer.nonNull : form.NonNull :=
  nonNull_record (by decide) fun _ => rfl

instance SetOptions.nonNull : form.NonNull :=
  nonNull_record (by decide) fun _ => rfl

instance ChangeTrust.nonNull : form.NonNull :=
  nonNull_record (by decide) fun _ => rfl

instance AllowTrust.nonNull : form.NonNull :=
  nonNull_record (by decide) fun _ => rfl

instance ManageData.nonNull : form.NonNull :=
  nonNull_record (by decide) fun _ => rfl

instance BumpSequence.nonNull : form.NonNull :=
  nonNull_record (by decide) fun _ => rfl

instance ManageBuyOffer.nonNull : form.NonNull :=
  nonNull_record (by decide) fun _ => rfl

instance PathPaymentStrictSend.nonNull : form.NonNull :=
  nonNull_record (by decide) fun _ => rfl

instance CreateClaimableBalance.nonNull : form.NonNull :=
  nonNull_record (by decide) fun _ => rfl

instance ClaimableBalanceReference.nonNull : form.NonNull :=
  nonNull_record (by decide) fun _ => rfl

instance BeginSponsoring.nonNull : form.NonNull :=
  nonNull_record (by decide) fun _ => rfl

namespace RevokeSponsorship

instance faithful_signer : (named signerFields).Faithful :=
  faithful_named (by decide) fun _ => rfl

instance nonNull : form.NonNull :=
  nonNull_tagged fun op => by cases op <;> exact .of_kind rfl rfl

end RevokeSponsorship

instance Clawback.nonNull : form.NonNull :=
  nonNull_record (by decide) fun _ => rfl

instance SetTrustLineFlags.nonNull : form.NonNull :=
  nonNull_record (by decide) fun _ => rfl

instance PoolDeposit.nonNull : form.NonNull :=
  nonNull_record (by decide) fun _ => rfl

instance PoolWithdraw.nonNull : form.NonNull :=
  nonNull_record (by decide) fun _ => rfl

instance InvokeHostFunction.nonNull : form.NonNull :=
  nonNull_record (by decide) fun _ => rfl

instance ExtendFootprint.nonNull : form.NonNull :=
  nonNull_record (by decide) fun _ => rfl

instance OperationBody.nonNull : form.NonNull :=
  nonNull_tagged fun body => by cases body <;> exact .of_kind rfl rfl

instance Operation.nonNull : form.NonNull :=
  nonNull_record (by decide) fun _ => rfl

instance Memo.nonNull : form.NonNull :=
  nonNull_tagged fun memo => by cases memo <;> exact .of_kind rfl rfl

instance TimeBounds.nonNull : TimeBounds.form.NonNull :=
  nonNull_record (by decide) fun _ => rfl

instance LedgerBounds.nonNull : LedgerBounds.form.NonNull :=
  nonNull_record (by decide) fun _ => rfl

instance PreconditionsV2.nonNull : form.NonNull :=
  nonNull_record (by decide) fun _ => rfl

instance Preconditions.nonNull : form.NonNull :=
  nonNull_tagged fun conditions => by cases conditions <;> exact .of_kind rfl rfl

instance DecoratedSignature.nonNull : form.NonNull :=
  nonNull_record (by decide) fun _ => rfl

instance Transaction.nonNull : form.NonNull :=
  nonNull_record (by decide) fun _ => rfl

instance SignedTransaction.nonNull : form.NonNull :=
  nonNull_record (by decide) fun _ => rfl

instance FeeBump.nonNull : form.NonNull :=
  nonNull_record (by decide) fun _ => rfl

instance Envelope.nonNull : form.NonNull :=
  nonNull_tagged fun envelope => by cases envelope <;> exact .of_kind rfl rfl

/-! ## Events -/

instance Toid.nonNull : Toid.form.NonNull where
  readBy toid := by
    obtain ⟨raw, hraw⟩ := toid
    show (if h : (raw : Int).toNat < 0x8000000000000000 then
      if 0 ≤ (raw : Int) then some (⟨(raw : Int).toNat, h⟩ : Toid) else none
      else none) = _
    rw [dif_pos (by omega), if_pos (by omega)]
    rfl
  read_null := rfl

instance EventId.nonNull : EventId.form.NonNull :=
  nonNull_spelled fun id => by rw [EventId.parse_text]; rfl

namespace AssetMove

instance faithful_parties : (named (partyFields "from" "to")).Faithful :=
  faithful_named (by decide) fun _ => rfl

instance faithful_minting : (named (partyFields "admin" "to")).Faithful :=
  faithful_named (by decide) fun _ => rfl

instance faithful_clawback : (named (partyFields "admin" "from")).Faithful :=
  faithful_named (by decide) fun _ => rfl

instance faithful_burn : (named burnFields).Faithful :=
  faithful_named (by decide) fun _ => rfl

instance nonNull : form.NonNull :=
  nonNull_tagged fun move => by cases move <;> exact .of_kind rfl rfl

end AssetMove

instance AssetEvent.nonNull : form.NonNull :=
  nonNull_record (by decide) fun _ => rfl

instance EventType.nonNull : EventType.form.NonNull :=
  nonNull_enumeration (fun type => by cases type <;> decide) (by decide)

instance ContractEvent.nonNull : form.NonNull :=
  nonNull_record (by decide) fun _ => rfl

instance DiagnosticEvent.nonNull : form.NonNull :=
  nonNull_record (by decide) fun _ => rfl

instance EventStage.nonNull : EventStage.form.NonNull :=
  nonNull_enumeration (fun stage => by cases stage <;> decide) (by decide)

instance TransactionEvent.nonNull : form.NonNull :=
  nonNull_record (by decide) fun _ => rfl

/-! ## Results -/

instance ResultCode.nonNull : form.NonNull :=
  nonNull_record (by decide) fun _ => rfl

instance OfferAtom.nonNull : form.NonNull :=
  nonNull_record (by decide) fun _ => rfl

instance PoolAtom.nonNull : form.NonNull :=
  nonNull_record (by decide) fun _ => rfl

instance ClaimAtom.nonNull : form.NonNull :=
  nonNull_tagged fun atom => by cases atom <;> exact .of_kind rfl rfl

instance SimplePayment.nonNull : form.NonNull :=
  nonNull_record (by decide) fun _ => rfl

instance PathSuccess.nonNull : form.NonNull :=
  nonNull_record (by decide) fun _ => rfl

instance OfferEffect.nonNull : form.NonNull :=
  nonNull_tagged fun effect => by cases effect <;> exact .of_kind rfl rfl

instance OfferSuccess.nonNull : form.NonNull :=
  nonNull_record (by decide) fun _ => rfl

instance InflationPayout.nonNull : form.NonNull :=
  nonNull_record (by decide) fun _ => rfl

instance PathResult.nonNull : form.NonNull :=
  nonNull_record (by decide) fun _ => rfl

instance OfferResult.nonNull : form.NonNull :=
  nonNull_record (by decide) fun _ => rfl

instance MergeResult.nonNull : form.NonNull :=
  nonNull_record (by decide) fun _ => rfl

instance InflationResult.nonNull : form.NonNull :=
  nonNull_record (by decide) fun _ => rfl

instance NewBalanceResult.nonNull : form.NonNull :=
  nonNull_record (by decide) fun _ => rfl

instance HostResult.nonNull : form.NonNull :=
  nonNull_record (by decide) fun _ => rfl

instance OperationOutcome.nonNull : form.NonNull :=
  nonNull_tagged fun outcome => by cases outcome <;> exact .of_kind rfl rfl

instance OperationResult.nonNull : form.NonNull :=
  nonNull_record (by decide) fun _ => rfl

instance InnerResult.nonNull : form.NonNull :=
  nonNull_record (by decide) fun _ => rfl

instance TransactionResult.nonNull : form.NonNull :=
  nonNull_record (by decide) fun _ => rfl

/-! ## Transactions and ledgers -/

instance SorobanFees.nonNull : SorobanFees.form.NonNull :=
  nonNull_record (by decide) fun _ => rfl

instance SorobanMeta.nonNull : form.NonNull :=
  nonNull_record (by decide) fun _ => rfl

instance TransactionMeta.nonNull : form.NonNull :=
  nonNull_record (by decide) fun _ => rfl

instance OperationRecord.nonNull : form.NonNull :=
  nonNull_record (by decide) fun _ => rfl

instance TransactionRecord.nonNull : form.NonNull :=
  nonNull_record (by decide) fun _ => rfl

namespace LedgerUpgrade

instance faithful_config : (named configFields).Faithful :=
  faithful_named (by decide) fun _ => rfl

instance nonNull : form.NonNull :=
  nonNull_tagged fun upgrade => by cases upgrade <;> exact .of_kind rfl rfl

end LedgerUpgrade

instance LedgerSummary.nonNull : form.NonNull :=
  nonNull_record (by decide) fun _ => rfl

instance LedgerRecord.nonNull : form.NonNull :=
  nonNull_record (by decide) fun _ => rfl

/-- What is written of a ledger is read as that ledger. -/
theorem LedgerRecord.read_back_as_written (record : LedgerRecord) :
    form.read (form.write record) = some record :=
  Faithful.readBy record

end LedgerExport.Record
