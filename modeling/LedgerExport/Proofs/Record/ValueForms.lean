import LedgerExport.Proofs.Json.ReadBack
import LedgerExport.Record.Entry

/-!
# Keys, assets, contract values and entries are read back

Each form is faithful because those of its fields and payloads are: the names of a
structure's fields are different, and each kind leads to its own reader.
-/

namespace LedgerExport.Record

open Form

/-! ## Keys and assets -/

namespace SignerKey

instance faithful_payload : (named payloadFields).Faithful :=
  faithful_named (by decide) fun _ => rfl

instance nonNull : form.NonNull :=
  nonNull_tagged fun key => by cases key <;> exact .of_kind rfl rfl

end SignerKey

instance ScAddress.nonNull : form.NonNull :=
  nonNull_tagged fun address => by cases address <;> exact .of_kind rfl rfl

namespace Asset

instance faithful_credit : (named creditFields).Faithful :=
  faithful_named (by decide) fun _ => rfl

theorem readAs_arm (asset : Asset) : asset.arm.ReadAs readArm asset := by
  cases asset <;> exact .of_kind rfl rfl

/-- The kinds of assets may stand among others that do not take their names. -/
theorem readAs_arm_of {α : Type} {asset : Asset} {read : String → Option Json → Option α}
    {build : Asset → α}
    (hread : read asset.arm.kind = fun json => (readArm asset.arm.kind json).map build) :
    asset.arm.ReadAs read (build asset) := by
  have harm : readArm asset.arm.kind (asset.arm.content.write asset.arm.payload) = some asset :=
    asset.readAs_arm
  rw [Arm.ReadAs, hread]
  exact congrArg (Option.map build) harm

instance nonNull : form.NonNull :=
  nonNull_tagged readAs_arm

end Asset

instance TrustLineAsset.nonNull : form.NonNull :=
  nonNull_tagged fun
    | .asset a => Asset.readAs_arm_of (by cases a <;> rfl)
    | .poolShare _ => .of_kind rfl rfl

namespace PoolParameters

instance faithful_named : (named fields).Faithful :=
  Form.faithful_named (by decide) fun _ => rfl

instance nonNull : form.NonNull :=
  nonNull_tagged fun _ => .of_kind rfl rfl

end PoolParameters

instance ChangeTrustAsset.nonNull : form.NonNull :=
  nonNull_tagged fun
    | .asset a => Asset.readAs_arm_of (by cases a <;> rfl)
    | .poolShare _ => .of_kind rfl rfl

instance Price.nonNull : Price.form.NonNull :=
  nonNull_record (by decide) fun _ => rfl

instance Liabilities.nonNull : Liabilities.form.NonNull :=
  nonNull_record (by decide) fun _ => rfl

instance Signer.nonNull : form.NonNull :=
  nonNull_record (by decide) fun _ => rfl

/-! ## Conditions of claims -/

namespace ClaimPredicate

theorem greatest_depthAll : Greatest depth depthAll where
  nil := rfl
  cons _ _ := rfl

theorem depth_pos (predicate : ClaimPredicate) : 0 < depth predicate := by
  cases predicate with
  | not inner => cases inner <;> exact Nat.succ_pos _
  | _ => exact Nat.succ_pos _

theorem faithful_shape : FaithfulShape shape depth := by
  intro part part' predicate hnull h
  have hparts {parts : List ClaimPredicate} (hdepth : depthAll parts < depth predicate) :
      (list part).ReadBy (list part') parts :=
    .list fun p hp => h p (Nat.lt_of_le_of_lt (greatest_depthAll.le hp) hdepth)
  refine readBy_tagged ?_
  cases predicate with
  | and parts => exact (hparts (Nat.lt_succ_self _)).value.arm rfl rfl
  | or parts => exact (hparts (Nat.lt_succ_self _)).value.arm rfl rfl
  | not inner =>
      have hinner : (option part).ReadBy (option part') inner :=
        .option (fun p hp => h p (by cases hp; exact Nat.lt_succ_self _)) hnull
      exact hinner.value.arm rfl rfl
  | _ => exact .of_kind rfl rfl

theorem deep_shape : DeepShape shape depth := by
  intro part predicate h
  have hparts {parts : List ClaimPredicate} (hdepth : depthAll parts < depth predicate) :
      depthAll parts < ((list part).write parts).depth :=
    lt_depth_list greatest_depthAll fun p hp =>
      h p (Nat.lt_of_le_of_lt (greatest_depthAll.le hp) hdepth)
  cases predicate with
  | and parts => exact (hparts (Nat.lt_succ_self _)).trans_le (Nat.le_of_lt (lt_depth_value _ _))
  | or parts => exact (hparts (Nat.lt_succ_self _)).trans_le (Nat.le_of_lt (lt_depth_value _ _))
  | not inner =>
      cases inner with
      | none => exact Json.depth_pos _
      | some p => exact (h p (Nat.lt_succ_self _)).trans_lt (lt_depth_value _ _)
  | _ => exact Json.depth_pos _

instance nonNull : form.NonNull :=
  nonNull_recursive depth_pos faithful_shape deep_shape fun _ => rfl

end ClaimPredicate

instance Claimant.nonNull : form.NonNull :=
  nonNull_record (by decide) fun _ => rfl

/-! ## Contract values -/

instance Int128.nonNull : Int128.form.NonNull :=
  nonNull_record (by decide) fun _ => rfl

instance UInt128.nonNull : UInt128.form.NonNull :=
  nonNull_record (by decide) fun _ => rfl

instance Int256.nonNull : Int256.form.NonNull :=
  nonNull_record (by decide) fun _ => rfl

instance UInt256.nonNull : UInt256.form.NonNull :=
  nonNull_record (by decide) fun _ => rfl

instance ScError.nonNull : form.NonNull :=
  nonNull_tagged fun
    | .contract _ => .of_kind rfl rfl
    | .host kind _ => by cases kind <;> exact .of_kind rfl rfl

instance Executable.nonNull : Executable.form.NonNull :=
  nonNull_tagged fun executable => by cases executable <;> exact .of_kind rfl rfl

namespace ScVal

/-- The number of levels of a key or its value, whichever has more. -/
def depthPair (entry : ScVal × ScVal) : Nat :=
  max (depth entry.1) (depth entry.2)

theorem greatest_depthAll : Greatest depth depthAll where
  nil := rfl
  cons _ _ := rfl

theorem greatest_depthPairs : Greatest depthPair depthPairs where
  nil := rfl
  cons _ _ := rfl

theorem depth_pos (value : ScVal) : 0 < depth value := by
  cases value with
  | vec items => cases items <;> exact Nat.succ_pos _
  | map entries => cases entries <;> exact Nat.succ_pos _
  | contractInstance executable storage => cases storage <;> exact Nat.succ_pos _
  | _ => exact Nat.succ_pos _

theorem readBy_entryForm {part part' : Form ScVal} {entry : ScVal × ScVal}
    (hkey : part.ReadBy part' entry.1) (hvalue : part.ReadBy part' entry.2) :
    (entryForm part).ReadBy (entryForm part') entry :=
  readBy_record (by decide) <| Fields.readBy_make Prod.mk |>.field hkey |>.field hvalue

theorem readBy_instanceForm {part part' : Form ScVal}
    {content : Executable × Option (List (ScVal × ScVal))}
    (h : (option (list (entryForm part))).ReadBy (option (list (entryForm part'))) content.2) :
    (instanceForm part).ReadBy (instanceForm part') content :=
  readBy_record (by decide) <| Fields.readBy_make Prod.mk
    |>.field (Faithful.readBy content.1)
    |>.field h

theorem faithful_shape : FaithfulShape shape depth := by
  intro part part' value hnull h
  have hitems (items : Option (List ScVal)) (hdepth : ∀ l ∈ items, depthAll l < depth value) :
      (option (list part)).ReadBy (option (list part')) items :=
    .option (fun l hl => .list fun item hitem =>
      h item (Nat.lt_of_le_of_lt (greatest_depthAll.le hitem) (hdepth l hl))) rfl
  have hentries (entries : Option (List (ScVal × ScVal)))
      (hdepth : ∀ l ∈ entries, depthPairs l < depth value) :
      (option (list (entryForm part))).ReadBy (option (list (entryForm part'))) entries := by
    refine .option (fun l hl => .list fun entry hentry => ?_) rfl
    have hentry := Nat.lt_of_le_of_lt (greatest_depthPairs.le hentry) (hdepth l hl)
    exact readBy_entryForm (h _ (Nat.lt_of_le_of_lt (Nat.le_max_left _ _) hentry))
      (h _ (Nat.lt_of_le_of_lt (Nat.le_max_right _ _) hentry))
  refine readBy_tagged ?_
  cases value with
  | vec items =>
      have hread := hitems items (by rintro l ⟨⟩; exact Nat.lt_succ_self _)
      exact hread.value.arm rfl rfl
  | map entries =>
      have hread := hentries entries (by rintro l ⟨⟩; exact Nat.lt_succ_self _)
      exact hread.value.arm rfl rfl
  | contractInstance executable storage =>
      have hread := hentries storage (by rintro l ⟨⟩; exact Nat.lt_succ_self _)
      have hinstance : (instanceForm part).ReadBy (instanceForm part') (executable, storage) :=
        readBy_instanceForm hread
      exact hinstance.value.arm rfl rfl
  | _ => exact .of_kind rfl rfl

theorem depthPair_le_entryForm {part : Form ScVal} {entry : ScVal × ScVal}
    (hkey : depth entry.1 ≤ (part.write entry.1).depth)
    (hvalue : depth entry.2 ≤ (part.write entry.2).depth) :
    depthPair entry ≤ ((entryForm part).write entry).depth := by
  have hmembers : (entryForm part).write entry =
      .obj [("key", part.write entry.1), ("val", part.write entry.2)] := rfl
  rw [hmembers]
  exact max_le
    (hkey.trans (Nat.le_of_lt (Json.depth_lt_depth_obj (m := ("key", _)) (by simp))))
    (hvalue.trans (Nat.le_of_lt (Json.depth_lt_depth_obj (m := ("val", _)) (by simp))))

theorem deep_shape : DeepShape shape depth := by
  intro part value h
  have hitems {items : List ScVal} (hdepth : depthAll items < depth value) :
      depthAll items < ((list part).write items).depth :=
    lt_depth_list greatest_depthAll fun item hitem =>
      h item (Nat.lt_of_le_of_lt (greatest_depthAll.le hitem) hdepth)
  have hentries {entries : List (ScVal × ScVal)} (hdepth : depthPairs entries < depth value) :
      depthPairs entries < ((list (entryForm part)).write entries).depth := by
    refine lt_depth_list greatest_depthPairs fun entry hentry => ?_
    have hentry := Nat.lt_of_le_of_lt (greatest_depthPairs.le hentry) hdepth
    exact depthPair_le_entryForm (h _ (Nat.lt_of_le_of_lt (Nat.le_max_left _ _) hentry))
      (h _ (Nat.lt_of_le_of_lt (Nat.le_max_right _ _) hentry))
  cases value with
  | vec items =>
      cases items with
      | none => exact Json.depth_pos _
      | some items =>
          exact (hitems (Nat.lt_succ_self _)).trans_le (Nat.le_of_lt (lt_depth_value _ _))
  | map entries =>
      cases entries with
      | none => exact Json.depth_pos _
      | some entries =>
          exact (hentries (Nat.lt_succ_self _)).trans_le (Nat.le_of_lt (lt_depth_value _ _))
  | contractInstance executable storage =>
      cases storage with
      | none => exact Json.depth_pos _
      | some storage =>
          have hstorage := hentries (Nat.lt_succ_self (depthPairs storage))
          have hinstance : ((list (entryForm part)).write storage).depth <
              ((instanceForm part).write (executable, some storage)).depth :=
            Json.depth_lt_depth_obj (m := ("storage", _))
              (List.mem_cons_of_mem _ (List.mem_singleton_self _))
          exact (hstorage.trans hinstance).trans_le (Nat.le_of_lt (lt_depth_value _ _))
  | _ => exact Json.depth_pos _

instance nonNull : form.NonNull :=
  nonNull_recursive depth_pos faithful_shape deep_shape fun _ => rfl

end ScVal

/-! ## Settings -/

instance SettingId.nonNull : SettingId.form.NonNull :=
  nonNull_enumeration (fun id => by cases id <;> decide) (by decide)

instance CostParameters.nonNull : CostParameters.form.NonNull :=
  nonNull_record (by decide) fun _ => rfl

instance faithful_compute : (named Compute.fields).Faithful :=
  faithful_named (by decide) fun _ => rfl

instance faithful_ledgerCost : (named LedgerCost.fields).Faithful :=
  faithful_named (by decide) fun _ => rfl

instance faithful_events : (named Events.fields).Faithful :=
  faithful_named (by decide) fun _ => rfl

instance faithful_bandwidth : (named Bandwidth.fields).Faithful :=
  faithful_named (by decide) fun _ => rfl

instance faithful_stateArchival : (named StateArchival.fields).Faithful :=
  faithful_named (by decide) fun _ => rfl

instance faithful_eviction : (named Eviction.fields).Faithful :=
  faithful_named (by decide) fun _ => rfl

instance faithful_ledgerCostMore : (named LedgerCostMore.fields).Faithful :=
  faithful_named (by decide) fun _ => rfl

instance faithful_timing : (named Timing.fields).Faithful :=
  faithful_named (by decide) fun _ => rfl

instance faithful_single (name : String) : (named (single name)).Faithful :=
  faithful_named (List.nodup_singleton name) fun _ => rfl

instance Setting.nonNull : Setting.form.NonNull :=
  nonNull_tagged fun setting => by cases setting <;> exact .of_kind rfl rfl

/-! ## Entries -/

instance Thresholds.nonNull : form.NonNull :=
  nonNull_record (by decide) fun _ => rfl

instance AccountEntry.nonNull : form.NonNull :=
  nonNull_record (by decide) fun _ => rfl

instance TrustLineEntry.nonNull : form.NonNull :=
  nonNull_record (by decide) fun _ => rfl

instance OfferEntry.nonNull : form.NonNull :=
  nonNull_record (by decide) fun _ => rfl

instance DataEntry.nonNull : form.NonNull :=
  nonNull_record (by decide) fun _ => rfl

instance BalanceEntry.nonNull : form.NonNull :=
  nonNull_record (by decide) fun _ => rfl

instance PoolState.nonNull : form.NonNull := by
  unfold form
  extract_lets state
  have hstate : state.NonNull := nonNull_record (by decide) fun _ => rfl
  exact nonNull_tagged fun _ => .of_kind rfl rfl

instance PoolEntry.nonNull : form.NonNull :=
  nonNull_record (by decide) fun _ => rfl

instance Durability.nonNull : Durability.form.NonNull :=
  nonNull_enumeration (fun durability => by cases durability <;> decide) (by decide)

instance ContractDataEntry.nonNull : form.NonNull :=
  nonNull_record (by decide) fun _ => rfl

instance CostInputs.nonNull : CostInputs.form.NonNull :=
  nonNull_record (by decide) fun _ => rfl

instance CodeEntry.nonNull : form.NonNull :=
  nonNull_record (by decide) fun _ => rfl

instance TtlEntry.nonNull : form.NonNull :=
  nonNull_record (by decide) fun _ => rfl

instance EntryData.nonNull : form.NonNull :=
  nonNull_tagged fun data => by cases data <;> exact .of_kind rfl rfl

instance LedgerEntry.nonNull : form.NonNull :=
  nonNull_record (by decide) fun _ => rfl

namespace LedgerKey

instance faithful_sole {α : Type} {name : String} {form : Form α} [form.Faithful] :
    (sole name form).Faithful :=
  faithful_named (List.nodup_singleton name) fun _ => rfl

instance faithful_trustLine : (named trustLineFields).Faithful :=
  faithful_named (by decide) fun _ => rfl

instance faithful_offer : (named offerFields).Faithful :=
  faithful_named (by decide) fun _ => rfl

instance faithful_data : (named dataFields).Faithful :=
  faithful_named (by decide) fun _ => rfl

instance faithful_contractData : (named contractDataFields).Faithful :=
  faithful_named (by decide) fun _ => rfl

instance nonNull : form.NonNull :=
  nonNull_tagged fun key => by cases key <;> exact .of_kind rfl rfl

end LedgerKey

instance EntryChange.nonNull : form.NonNull :=
  nonNull_tagged fun change => by cases change <;> exact .of_kind rfl rfl

end LedgerExport.Record
