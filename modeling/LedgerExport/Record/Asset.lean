import LedgerExport.Json.Form

/-!
# Keys and assets as records

Records show keys as texts. An asset is its code and its issuer; its canonical
name is what a person types to name it.
-/

namespace LedgerExport.Record

open Form

/-! ## Addresses and signers -/

/-- What may sign a transaction. -/
inductive SignerKey
  | ed25519 (key : String)
  | preAuthTx (key : String)
  | hashX (key : String)
  | signedPayload (key ed25519 payload : String)

namespace SignerKey

/-- The parts of a signed payload. -/
def payloadFields : Fields (String × String × String) (String × String × String) :=
  Fields.make (fun key ed25519 payload => (key, ed25519, payload))
    |>.field "key" text (·.1)
    |>.field "ed25519" text (·.2.1)
    |>.field "payload" text (·.2.2)

def form : Form SignerKey :=
  tagged
    (fun
      | .ed25519 key => ⟨"ed25519", value text, key⟩
      | .preAuthTx key => ⟨"pre_auth_tx", value text, key⟩
      | .hashX key => ⟨"hash_x", value text, key⟩
      | .signedPayload key ed payload =>
        ⟨"ed25519_signed_payload", named payloadFields, (key, ed, payload)⟩)
    (fun
      | "ed25519" => (value text).into .ed25519
      | "pre_auth_tx" => (value text).into .preAuthTx
      | "hash_x" => (value text).into .hashX
      | "ed25519_signed_payload" =>
        (named payloadFields).into fun (key, ed, payload) => .signedPayload key ed payload
      | _ => fun _ => none)

end SignerKey

/-- An address, by its kind and its text. -/
inductive ScAddress
  | account (text : String)
  | contract (text : String)
  | muxedAccount (text : String)
  | claimableBalance (text : String)
  | liquidityPool (text : String)

def ScAddress.form : Form ScAddress :=
  tagged
    (fun
      | .account t => ⟨"account", value text, t⟩
      | .contract t => ⟨"contract", value text, t⟩
      | .muxedAccount t => ⟨"muxed_account", value text, t⟩
      | .claimableBalance t => ⟨"claimable_balance", value text, t⟩
      | .liquidityPool t => ⟨"liquidity_pool", value text, t⟩)
    (fun
      | "account" => (value text).into .account
      | "contract" => (value text).into .contract
      | "muxed_account" => (value text).into .muxedAccount
      | "claimable_balance" => (value text).into .claimableBalance
      | "liquidity_pool" => (value text).into .liquidityPool
      | _ => fun _ => none)

/-! ## Assets -/

/-- The native asset, or a code of an issuer in its shorter or longer form. -/
inductive Asset
  | native
  | alphanum4 (code issuer : String)
  | alphanum12 (code issuer : String)

namespace Asset

/-- The name of an asset. -/
def canonical : Asset → String
  | .native => "native"
  | .alphanum4 code issuer => code ++ ":" ++ issuer
  | .alphanum12 code issuer => code ++ ":" ++ issuer

/-- A code and its issuer. -/
def creditFields : Fields (String × String) (String × String) :=
  Fields.make Prod.mk |>.field "code" text (·.1) |>.field "issuer" text (·.2)

/-- The arm of an asset. -/
def arm : Asset → Arm
  | .native => ⟨"native", unit, ()⟩
  | .alphanum4 code issuer => ⟨"credit_alphanum4", named creditFields, (code, issuer)⟩
  | .alphanum12 code issuer => ⟨"credit_alphanum12", named creditFields, (code, issuer)⟩

/-- Reads what stands behind a kind. -/
def readArm : String → Option Json → Option Asset
  | "native" => unit.into fun _ => .native
  | "credit_alphanum4" => (named creditFields).into fun (code, issuer) => .alphanum4 code issuer
  | "credit_alphanum12" => (named creditFields).into fun (code, issuer) => .alphanum12 code issuer
  | _ => fun _ => none

def form : Form Asset :=
  tagged arm readArm

end Asset

/-- What a trust line holds; a pool is shown by its identifier. -/
inductive TrustLineAsset
  | asset (asset : Asset)
  | poolShare (pool : String)

def TrustLineAsset.form : Form TrustLineAsset :=
  tagged
    (fun
      | .asset a => a.arm
      | .poolShare pool => ⟨"pool_share", value text, pool⟩)
    (fun
      | "pool_share" => (value text).into .poolShare
      | kind => fun json => (Asset.readArm kind json).map .asset)

/-- What makes a liquidity pool. -/
structure PoolParameters where
  assetA : Asset
  assetB : Asset
  fee : Int32

namespace PoolParameters

def fields : Fields PoolParameters PoolParameters :=
  Fields.make PoolParameters.mk
    |>.field "asset_a" Asset.form (·.assetA)
    |>.field "asset_b" Asset.form (·.assetB)
    |>.field "fee" int32 (·.fee)

def form : Form PoolParameters :=
  tagged
    (fun parameters => ⟨"constant_product", named fields, parameters⟩)
    (fun
      | "constant_product" => (named fields).into id
      | _ => fun _ => none)

end PoolParameters

/-- What a change of trust names. -/
inductive ChangeTrustAsset
  | asset (asset : Asset)
  | poolShare (pool : PoolParameters)

def ChangeTrustAsset.form : Form ChangeTrustAsset :=
  tagged
    (fun
      | .asset a => a.arm
      | .poolShare pool => ⟨"pool_share", value PoolParameters.form, pool⟩)
    (fun
      | "pool_share" => (value PoolParameters.form).into .poolShare
      | kind => fun json => (Asset.readArm kind json).map .asset)

/-! ## Prices, signers and claimants -/

/-- The ratio of two numbers. -/
structure Price where
  n : Int32
  d : Int32

def Price.form : Form Price :=
  record <| Fields.make Price.mk
    |>.field "n" int32 (·.n)
    |>.field "d" int32 (·.d)

/-- The amounts that open offers may take and give. -/
structure Liabilities where
  buying : Int64
  selling : Int64

def Liabilities.form : Form Liabilities :=
  record <| Fields.make Liabilities.mk
    |>.field "buying" int64 (·.buying)
    |>.field "selling" int64 (·.selling)

/-- A key and what its signature weighs. -/
structure Signer where
  key : SignerKey
  weight : UInt32

def Signer.form : Form Signer :=
  record <| Fields.make Signer.mk
    |>.field "key" SignerKey.form (·.key)
    |>.field "weight" uint32 (·.weight)

/-- When a balance may be claimed. -/
inductive ClaimPredicate
  | unconditional
  | and (parts : List ClaimPredicate)
  | or (parts : List ClaimPredicate)
  | not (part : Option ClaimPredicate)
  | beforeAbsoluteTime (time : Int64)
  | beforeRelativeTime (time : Int64)

namespace ClaimPredicate

mutual

/-- The number of levels of a predicate. -/
def depth : ClaimPredicate → Nat
  | .and parts => depthAll parts + 1
  | .or parts => depthAll parts + 1
  | .not (some part) => depth part + 1
  | _ => 1

/-- The greatest number of levels of some predicates. -/
def depthAll : List ClaimPredicate → Nat
  | [] => 0
  | part :: parts => max (depth part) (depthAll parts)

end

/-- The form of a predicate, given that of its parts. -/
def shape (part : Form ClaimPredicate) : Form ClaimPredicate :=
  tagged
    (fun
      | .unconditional => ⟨"unconditional", unit, ()⟩
      | .and parts => ⟨"and", value (list part), parts⟩
      | .or parts => ⟨"or", value (list part), parts⟩
      | .not inner => ⟨"not", value (option part), inner⟩
      | .beforeAbsoluteTime time => ⟨"before_absolute_time", value int64, time⟩
      | .beforeRelativeTime time => ⟨"before_relative_time", value int64, time⟩)
    (fun
      | "unconditional" => unit.into fun _ => .unconditional
      | "and" => (value (list part)).into .and
      | "or" => (value (list part)).into .or
      | "not" => (value (option part)).into .not
      | "before_absolute_time" => (value int64).into .beforeAbsoluteTime
      | "before_relative_time" => (value int64).into .beforeRelativeTime
      | _ => fun _ => none)

def form : Form ClaimPredicate :=
  recursive shape depth

end ClaimPredicate

/-- Who may claim a balance, and when. -/
structure Claimant where
  destination : String
  predicate : ClaimPredicate

def Claimant.form : Form Claimant :=
  record <| Fields.make Claimant.mk
    |>.field "destination" text (·.destination)
    |>.field "predicate" ClaimPredicate.form (·.predicate)

end LedgerExport.Record
