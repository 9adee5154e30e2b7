import LedgerExport.Proofs.Xdr.Faithful
import LedgerExport.Protocol.Entry

/-!
# Keys, assets and contract values are read back

The codecs of what a transaction names: accounts and addresses, assets, the
conditions of claims, contract values and the keys of entries. Each is faithful
because its parts are. A structure is laid out like its lemma, and a union has one
case for each kind.
-/

namespace LedgerExport

open Xdr Layout

/-! ## Wide integers -/

theorem Int128.faithful : Int128.layout.Faithful :=
  readBy_make Int128.mk |>.field faithful_int64 |>.field faithful_uint64

theorem UInt128.faithful : UInt128.layout.Faithful :=
  readBy_make UInt128.mk |>.field faithful_uint64 |>.field faithful_uint64

theorem Int256.faithful : Int256.layout.Faithful :=
  readBy_make Int256.mk |>.field faithful_int64 |>.field faithful_uint64
    |>.field faithful_uint64 |>.field faithful_uint64

theorem UInt256.faithful : UInt256.layout.Faithful :=
  readBy_make UInt256.mk |>.field faithful_uint64 |>.field faithful_uint64
    |>.field faithful_uint64 |>.field faithful_uint64

namespace Protocol

/-! ## Keys and addresses -/

theorem AccountId.faithful : AccountId.layout.Faithful :=
  faithful_single (by decide) <| readBy_make AccountId.mk |>.field (faithful_fixed 32)

theorem ContractId.faithful : ContractId.layout.Faithful :=
  readBy_make ContractId.mk |>.field (faithful_fixed 32)

theorem PoolId.faithful : PoolId.layout.Faithful :=
  readBy_make PoolId.mk |>.field (faithful_fixed 32)

theorem BalanceId.faithful : BalanceId.layout.Faithful :=
  faithful_single (by decide) <| readBy_make BalanceId.mk |>.field (faithful_fixed 32)

theorem MuxedKey.faithful : MuxedKey.layout.Faithful :=
  readBy_make MuxedKey.mk |>.field faithful_uint64 |>.field (faithful_fixed 32)

theorem MuxedAccount.faithful : MuxedAccount.layout.Faithful := by
  refine readBy_union (fun account => ?_) fun account => ?_
  · cases account <;> exact Nat.le_of_ble_eq_true rfl
  · cases account with
    | plain key => exact (faithful_fixed 32).arm rfl rfl
    | muxed key => exact MuxedKey.faithful.arm rfl rfl

theorem SignedPayload.faithful : SignedPayload.layout.Faithful :=
  readBy_make SignedPayload.mk
    |>.field (faithful_fixed 32)
    |>.field (faithful_octets (by decide))

theorem SignerKey.faithful : SignerKey.layout.Faithful := by
  refine readBy_union (fun key => ?_) fun key => ?_
  · cases key <;> exact Nat.le_of_ble_eq_true rfl
  · cases key with
    | ed25519 key => exact (faithful_fixed 32).arm rfl rfl
    | preAuthTx hash => exact (faithful_fixed 32).arm rfl rfl
    | hashX hash => exact (faithful_fixed 32).arm rfl rfl
    | signedPayload signer => exact SignedPayload.faithful.arm rfl rfl

theorem ScAddress.faithful : ScAddress.layout.Faithful := by
  refine readBy_union (fun address => ?_) fun address => ?_
  · cases address <;> exact Nat.le_of_ble_eq_true rfl
  · cases address with
    | account id => exact AccountId.faithful.arm rfl rfl
    | contract id => exact ContractId.faithful.arm rfl rfl
    | muxedAccount key => exact MuxedKey.faithful.arm rfl rfl
    | claimableBalance id => exact BalanceId.faithful.arm rfl rfl
    | liquidityPool id => exact PoolId.faithful.arm rfl rfl

/-! ## Assets -/

theorem AssetCode.faithful : AssetCode.layout.Faithful := by
  refine readBy_union (fun code => ?_) fun code => ?_
  · cases code <;> exact Nat.le_of_ble_eq_true rfl
  · cases code with
    | alphanum4 code => exact (faithful_fixed 4).arm rfl rfl
    | alphanum12 code => exact (faithful_fixed 12).arm rfl rfl

theorem Asset.tag_arm_lt (asset : Asset) : asset.arm.tag < 256 ^ 4 := by
  cases asset <;> exact Nat.le_of_ble_eq_true rfl

theorem Asset.readAs_arm (asset : Asset) : asset.arm.ReadAs Asset.readArm asset := by
  cases asset with
  | native => exact Arm.readAs_void rfl
  | alphanum4 code issuer => exact (readBy_pair (faithful_fixed 4) AccountId.faithful).arm rfl rfl
  | alphanum12 code issuer => exact (readBy_pair (faithful_fixed 12) AccountId.faithful).arm rfl rfl

theorem Asset.faithful : Asset.layout.Faithful :=
  readBy_union Asset.tag_arm_lt Asset.readAs_arm

/-- The arms of an asset are also arms of a union that reads their tags so. -/
theorem Asset.readAs_arm_of {α : Type} {asset : Asset} {read : Nat → Decoder α} {build : Asset → α}
    (hread : read asset.arm.tag = build <$> Asset.readArm asset.arm.tag) :
    asset.arm.ReadAs read (build asset) where
  read_write hfits rest := by
    rw [hread]
    exact Decoder.map_read_iff.mpr ⟨asset, asset.readAs_arm.read_write hfits rest, rfl⟩
  prepends := asset.readAs_arm.prepends

theorem TrustLineAsset.faithful : TrustLineAsset.layout.Faithful := by
  refine readBy_union (fun asset => ?_) fun asset => ?_
  · cases asset with
    | asset a => exact a.tag_arm_lt
    | poolShare pool => exact Nat.le_of_ble_eq_true rfl
  · cases asset with
    | asset a => exact Asset.readAs_arm_of (by cases a <;> rfl)
    | poolShare pool => exact PoolId.faithful.arm rfl rfl

theorem PoolParameters.faithful : PoolParameters.layout.Faithful :=
  readBy_make PoolParameters.mk
    |>.field Asset.faithful
    |>.field Asset.faithful
    |>.field faithful_int32

theorem ChangeTrustAsset.faithful : ChangeTrustAsset.layout.Faithful := by
  refine readBy_union (fun asset => ?_) fun asset => ?_
  · cases asset with
    | asset a => exact a.tag_arm_lt
    | poolShare pool => exact Nat.le_of_ble_eq_true rfl
  · cases asset with
    | asset a => exact Asset.readAs_arm_of (by cases a <;> rfl)
    | poolShare pool => exact (faithful_single (by decide) PoolParameters.faithful).arm rfl rfl

theorem Price.faithful : Price.layout.Faithful :=
  readBy_make Price.mk |>.field faithful_int32 |>.field faithful_int32

theorem Signer.faithful : Signer.layout.Faithful :=
  readBy_make Signer.mk |>.field SignerKey.faithful |>.field faithful_uint32

/-! ## Conditions of claims -/

namespace ClaimPredicate

theorem faithful_shape : FaithfulShape shape := by
  intro part part' h
  have hparts : (list 2 part).ReadBy (list 2 part') fun parts => parts :=
    readBy_list (by decide) h
  refine readBy_union (fun predicate => ?_) fun predicate => ?_
  · cases predicate <;> exact Nat.le_of_ble_eq_true rfl
  · cases predicate with
    | unconditional => exact Arm.readAs_void rfl
    | and parts => exact hparts.arm rfl rfl
    | or parts => exact hparts.arm rfl rfl
    | not inner => exact (readBy_optional h).arm rfl rfl
    | beforeAbsoluteTime time => exact faithful_int64.arm rfl rfl
    | beforeRelativeTime time => exact faithful_int64.arm rfl rfl

theorem depthAll_cons_le (part : ClaimPredicate) (parts : List ClaimPredicate) :
    depthAll (part :: parts) ≤ depth part + depthAll parts := by
  rw [depthAll]
  omega

/-- Each level of a predicate has a tag. -/
theorem spans_shape {part : Codec ClaimPredicate} (h : part.Faithful) (hpart : part.Spans depth) :
    (shape part).Spans depth := by
  have hparts : (list 2 part).Spans fun parts => depthAll parts + 4 :=
    spans_list hpart rfl depthAll_cons_le
  have hinner := spans_optional hpart
  have htag := spans_union (faithful_shape h).prepends
  intro predicate hfits rest
  cases predicate with
  | and parts =>
      have hlength : depthAll parts + 4 + rest.length ≤ _ :=
        le_length_write (hparts parts hfits rest) 4 1
      exact le_trans (by rw [depth]; omega) hlength
  | or parts =>
      have hlength : depthAll parts + 4 + rest.length ≤ _ :=
        le_length_write (hparts parts hfits rest) 4 2
      exact le_trans (by rw [depth]; omega) hlength
  | not inner =>
      have hlength := le_length_write (hinner inner hfits rest) 4 3
      cases inner with
      | none => exact le_trans (by simp only [depth]; omega) hlength
      | some part => exact le_trans (by simp only [depth, Option.elim]; omega) hlength
  | _ => exact le_trans (by simp only [depth]; omega) (htag _ hfits rest)

theorem faithful : layout.Faithful :=
  faithful_recursive faithful_shape fun _ => spans_shape

end ClaimPredicate

theorem Claimant.faithful : Claimant.layout.Faithful :=
  faithful_single (by decide) <| readBy_make Claimant.mk
    |>.field AccountId.faithful
    |>.field ClaimPredicate.faithful

/-! ## Contract values -/

theorem HostErrorCode.faithful : HostErrorCode.layout.Faithful :=
  faithful_enumeration (by decide)

theorem ScError.faithful : ScError.layout.Faithful := by
  refine readBy_union (fun error => ?_) fun error => ?_
  · cases error with
    | contract code => exact Nat.le_of_ble_eq_true rfl
    | host kind code => cases kind <;> exact Nat.le_of_ble_eq_true rfl
  · cases error with
    | contract code => exact faithful_uint32.arm rfl rfl
    | host kind code => cases kind <;> exact HostErrorCode.faithful.arm rfl rfl

theorem Executable.faithful : Executable.layout.Faithful := by
  refine readBy_union (fun executable => ?_) fun executable => ?_
  · cases executable <;> exact Nat.le_of_ble_eq_true rfl
  · cases executable with
    | wasm hash => exact (faithful_fixed 32).arm rfl rfl
    | stellarAsset => exact Arm.readAs_void rfl

namespace ScVal

theorem faithful_shape : FaithfulShape shape := by
  intro part part' h
  have hitems := readBy_optional (readBy_many h)
  have hentries := readBy_optional (readBy_many (readBy_pair h h))
  refine readBy_union (fun value => ?_) fun value => ?_
  · cases value <;> exact Nat.le_of_ble_eq_true rfl
  · cases value with
    | bool value => exact faithful_bool.arm rfl rfl
    | void => exact Arm.readAs_void rfl
    | error e => exact ScError.faithful.arm rfl rfl
    | u32 value => exact faithful_uint32.arm rfl rfl
    | i32 value => exact faithful_int32.arm rfl rfl
    | u64 value => exact faithful_uint64.arm rfl rfl
    | i64 value => exact faithful_int64.arm rfl rfl
    | timepoint time => exact faithful_uint64.arm rfl rfl
    | duration seconds => exact faithful_uint64.arm rfl rfl
    | u128 value => exact UInt128.faithful.arm rfl rfl
    | i128 value => exact Int128.faithful.arm rfl rfl
    | u256 value => exact UInt256.faithful.arm rfl rfl
    | i256 value => exact Int256.faithful.arm rfl rfl
    | bytes content => exact (faithful_octets (by decide)).arm rfl rfl
    | string text => exact (faithful_octets (by decide)).arm rfl rfl
    | symbol text => exact (faithful_octets (by decide)).arm rfl rfl
    | vec items => exact hitems.arm rfl rfl
    | map items => exact hentries.arm rfl rfl
    | address a => exact ScAddress.faithful.arm rfl rfl
    | contractInstance executable storage =>
        exact (readBy_pair Executable.faithful hentries).arm rfl rfl
    | ledgerKeyContractInstance => exact Arm.readAs_void rfl
    | ledgerKeyNonce nonce => exact faithful_int64.arm rfl rfl

theorem depthAll_cons_le (value : ScVal) (values : List ScVal) :
    depthAll (value :: values) ≤ depth value + depthAll values := by
  rw [depthAll]
  omega

/-- The number of levels of a key and its value together. -/
def depthPair (entry : ScVal × ScVal) : Nat :=
  depth entry.1 + depth entry.2

theorem depthPairs_cons_le (entry : ScVal × ScVal) (entries : List (ScVal × ScVal)) :
    depthPairs (entry :: entries) ≤ depthPair entry + depthPairs entries := by
  rw [depthPairs, depthPair]
  omega

/-- Each level of a value has a tag. -/
theorem spans_shape {part : Codec ScVal} (h : part.Faithful) (hpart : part.Spans depth) :
    (shape part).Spans depth := by
  have hpair : (pair part part).Spans depthPair := by
    rintro ⟨key, value⟩ ⟨⟨-, hkey⟩, hvalue⟩ rest
    have hfirst := hpart key hkey (part.write value rest)
    have hsecond := hpart value hvalue rest
    show depth key + depth value + rest.length ≤ (part.write key (part.write value rest)).length
    omega
  have hitems := spans_optional (spans_many hpart rfl depthAll_cons_le)
  have hentries := spans_optional (spans_many hpair rfl depthPairs_cons_le)
  have htag := spans_union (faithful_shape h).prepends
  intro value hfits rest
  cases value with
  | vec items =>
      have hlength := le_length_write (hitems items hfits rest) 4 16
      cases items with
      | none => exact le_trans (by simp only [depth]; omega) hlength
      | some items => exact le_trans (by simp only [depth, Option.elim]; omega) hlength
  | map entries =>
      have hlength := le_length_write (hentries entries hfits rest) 4 17
      cases entries with
      | none => exact le_trans (by simp only [depth]; omega) hlength
      | some entries => exact le_trans (by simp only [depth, Option.elim]; omega) hlength
  | contractInstance executable storage =>
      have hstorage := hentries storage hfits.2 rest
      have hfront := (Executable.faithful.prepends executable).length_le
        ((optional (many (pair part part))).write storage rest)
      have hlength := le_length_write (hstorage.trans hfront) 4 19
      cases storage with
      | none => exact le_trans (by simp only [depth]; omega) hlength
      | some storage => exact le_trans (by simp only [depth, Option.elim]; omega) hlength
  | _ => exact le_trans (by simp only [depth]; omega) (htag _ hfits rest)

theorem faithful : layout.Faithful :=
  faithful_recursive faithful_shape fun _ => spans_shape

end ScVal

/-! ## Keys of entries -/

theorem SettingId.faithful : SettingId.layout.Faithful :=
  faithful_enumeration (by decide)

theorem Durability.faithful : Durability.layout.Faithful :=
  faithful_enumeration (by decide)

theorem LedgerKey.faithful : LedgerKey.layout.Faithful := by
  refine readBy_union (fun key => ?_) fun key => ?_
  · cases key <;> exact Nat.le_of_ble_eq_true rfl
  · cases key with
    | account id => exact AccountId.faithful.arm rfl rfl
    | trustLine id asset =>
        exact (readBy_pair AccountId.faithful TrustLineAsset.faithful).arm rfl rfl
    | offer seller offerId => exact (readBy_pair AccountId.faithful faithful_int64).arm rfl rfl
    | data id name =>
        exact (readBy_pair AccountId.faithful (faithful_octets (by decide))).arm rfl rfl
    | claimableBalance balance => exact BalanceId.faithful.arm rfl rfl
    | liquidityPool pool => exact PoolId.faithful.arm rfl rfl
    | contractData contract key durability =>
        exact (readBy_pair ScAddress.faithful
          (readBy_pair ScVal.faithful Durability.faithful)).arm rfl rfl
    | contractCode hash => exact (faithful_fixed 32).arm rfl rfl
    | configSetting setting => exact SettingId.faithful.arm rfl rfl
    | ttl keyHash => exact (faithful_fixed 32).arm rfl rfl

end Protocol

end LedgerExport
