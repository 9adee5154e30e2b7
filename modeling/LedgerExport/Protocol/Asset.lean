import LedgerExport.Protocol.Key

/-!
# Assets and what is said about them

An asset is the native one or a code of an issuer; a trust line may also hold a
share of a pool. Prices, liabilities, signers and claimants are the small
structures that entries and operations share.

## Implementation notes

A trust line's asset has the tags of an asset and one more, so its layout goes
through the arms of the asset's.
-/

namespace LedgerExport.Protocol

open Xdr

/-- A code of either length, without an issuer. -/
inductive AssetCode
  | alphanum4 (code : FixedBytes 4)
  | alphanum12 (code : FixedBytes 12)

def AssetCode.layout : Codec AssetCode :=
  union
    (fun
      | .alphanum4 code => ⟨1, fixed 4, code⟩
      | .alphanum12 code => ⟨2, fixed 12, code⟩)
    (fun
      | 1 => .alphanum4 <$> (fixed 4).read
      | 2 => .alphanum12 <$> (fixed 12).read
      | _ => throw .invalidValue)

/-- The native asset, or a code of an issuer. -/
inductive Asset
  | native
  | alphanum4 (code : FixedBytes 4) (issuer : AccountId)
  | alphanum12 (code : FixedBytes 12) (issuer : AccountId)
deriving DecidableEq

namespace Asset

/-- The arm of an asset. -/
def arm : Asset → Arm
  | .native => ⟨0, void, ()⟩
  | .alphanum4 code issuer => ⟨1, pair (fixed 4) AccountId.layout, (code, issuer)⟩
  | .alphanum12 code issuer => ⟨2, pair (fixed 12) AccountId.layout, (code, issuer)⟩

/-- Reads the arm that a tag selects. -/
def readArm : Nat → Decoder Asset
  | 0 => return .native
  | 1 => (fun (code, issuer) => .alphanum4 code issuer) <$> (pair (fixed 4) AccountId.layout).read
  | 2 => (fun (code, issuer) => .alphanum12 code issuer) <$> (pair (fixed 12) AccountId.layout).read
  | _ => throw .invalidValue

def layout : Codec Asset :=
  union arm readArm

end Asset

/-- What a trust line holds. -/
inductive TrustLineAsset
  | asset (asset : Asset)
  | poolShare (pool : PoolId)

def TrustLineAsset.layout : Codec TrustLineAsset :=
  union
    (fun
      | .asset a => a.arm
      | .poolShare pool => ⟨3, PoolId.layout, pool⟩)
    (fun
      | 3 => .poolShare <$> PoolId.layout.read
      | tag => .asset <$> Asset.readArm tag)

/-- What makes a liquidity pool: its two assets and its fee. -/
structure PoolParameters where
  assetA : Asset
  assetB : Asset
  fee : Int32

def PoolParameters.layout : Codec PoolParameters :=
  Layout.make PoolParameters.mk
    |>.field Asset.layout (·.assetA)
    |>.field Asset.layout (·.assetB)
    |>.field int32 (·.fee)

/-- What a change of trust names: an asset, or a pool by its parameters. -/
inductive ChangeTrustAsset
  | asset (asset : Asset)
  | poolShare (pool : PoolParameters)

def ChangeTrustAsset.layout : Codec ChangeTrustAsset :=
  union
    (fun
      | .asset a => a.arm
      | .poolShare pool => ⟨3, single 0 PoolParameters.layout, pool⟩)
    (fun
      | 3 => .poolShare <$> (single 0 PoolParameters.layout).read
      | tag => .asset <$> Asset.readArm tag)

/-- The ratio of two numbers. -/
structure Price where
  n : Int32
  d : Int32

def Price.layout : Codec Price :=
  Layout.make Price.mk |>.field int32 (·.n) |>.field int32 (·.d)

/-- The amounts that open offers may take and give. -/
structure Liabilities where
  buying : Int64
  selling : Int64

def Liabilities.layout : Codec Liabilities :=
  Layout.make Liabilities.mk |>.field int64 (·.buying) |>.field int64 (·.selling)

/-- A key and what its signature weighs. -/
structure Signer where
  key : SignerKey
  weight : UInt32

def Signer.layout : Codec Signer :=
  Layout.make Signer.mk |>.field SignerKey.layout (·.key) |>.field uint32 (·.weight)

/-- When a balance may be claimed. -/
inductive ClaimPredicate
  | unconditional
  | and (parts : List ClaimPredicate)
  | or (parts : List ClaimPredicate)
  | not (part : Option ClaimPredicate)
  | beforeAbsoluteTime (time : Int64)
  | beforeRelativeTime (time : Int64)

namespace ClaimPredicate

mutual

/-- The number of levels of a predicate. -/
def depth : ClaimPredicate → Nat
  | .and parts => depthAll parts + 1
  | .or parts => depthAll parts + 1
  | .not (some part) => depth part + 1
  | _ => 1

/-- The greatest number of levels of some predicates. -/
def depthAll : List ClaimPredicate → Nat
  | [] => 0
  | part :: parts => max (depth part) (depthAll parts)

end

/-- The layout of a predicate, given that of its parts. -/
def shape (part : Codec ClaimPredicate) : Codec ClaimPredicate :=
  union
    (fun
      | .unconditional => ⟨0, void, ()⟩
      | .and parts => ⟨1, list 2 part, parts⟩
      | .or parts => ⟨2, list 2 part, parts⟩
      | .not inner => ⟨3, optional part, inner⟩
      | .beforeAbsoluteTime time => ⟨4, int64, time⟩
      | .beforeRelativeTime time => ⟨5, int64, time⟩)
    (fun
      | 0 => return .unconditional
      | 1 => .and <$> (list 2 part).read
      | 2 => .or <$> (list 2 part).read
      | 3 => .not <$> (optional part).read
      | 4 => .beforeAbsoluteTime <$> int64.read
      | 5 => .beforeRelativeTime <$> int64.read
      | _ => throw .invalidValue)

def layout : Codec ClaimPredicate :=
  recursive shape depth

end ClaimPredicate

/-- Who may claim a balance, and when. -/
structure Claimant where
  destination : AccountId
  predicate : ClaimPredicate

def Claimant.layout : Codec Claimant :=
  single 0 <| Layout.make Claimant.mk
    |>.field AccountId.layout (·.destination)
    |>.field ClaimPredicate.layout (·.predicate)

end LedgerExport.Protocol
