import LedgerExport.Xdr.Layout

/-!
# Keys and addresses

What the protocol names things by: accounts by their public key, contracts,
liquidity pools and claimable balances by a hash. A multiplexed account adds a
number to the key of an account; an address is any of these.
-/

namespace LedgerExport.Protocol

open Xdr

/-- The public key of a signature scheme on the curve ed25519. -/
abbrev Ed25519 := FixedBytes 32

/-- An account, by its key. -/
structure AccountId where
  key : Ed25519
deriving DecidableEq

def AccountId.layout : Codec AccountId :=
  single 0 <| Layout.make AccountId.mk |>.field (fixed 32) (·.key)

/-- A contract, by its hash. -/
structure ContractId where
  hash : Hash
deriving DecidableEq

def ContractId.layout : Codec ContractId :=
  Layout.make ContractId.mk |>.field (fixed 32) (·.hash)

/-- A liquidity pool, by its hash. -/
structure PoolId where
  hash : Hash
deriving DecidableEq

def PoolId.layout : Codec PoolId :=
  Layout.make PoolId.mk |>.field (fixed 32) (·.hash)

/-- A claimable balance, by its hash. -/
structure BalanceId where
  hash : Hash
deriving DecidableEq

def BalanceId.layout : Codec BalanceId :=
  single 0 <| Layout.make BalanceId.mk |>.field (fixed 32) (·.hash)

/-- A key together with the number of a customer behind it. -/
structure MuxedKey where
  id : UInt64
  key : Ed25519
deriving DecidableEq

def MuxedKey.layout : Codec MuxedKey :=
  Layout.make MuxedKey.mk |>.field uint64 (·.id) |>.field (fixed 32) (·.key)

/-- An account that may carry a number. -/
inductive MuxedAccount
  | plain (key : Ed25519)
  | muxed (key : MuxedKey)
deriving DecidableEq

def MuxedAccount.layout : Codec MuxedAccount :=
  union
    (fun
      | .plain key => ⟨0, fixed 32, key⟩
      | .muxed key => ⟨0x100, MuxedKey.layout, key⟩)
    (fun
      | 0 => .plain <$> (fixed 32).read
      | 0x100 => .muxed <$> MuxedKey.layout.read
      | _ => throw .invalidValue)

/-- A key that signs one given payload. -/
structure SignedPayload where
  key : Ed25519
  payload : Octets
deriving DecidableEq

def SignedPayload.layout : Codec SignedPayload :=
  Layout.make SignedPayload.mk |>.field (fixed 32) (·.key) |>.field (octets 64) (·.payload)

/-- What may sign a transaction. -/
inductive SignerKey
  | ed25519 (key : Ed25519)
  | preAuthTx (hash : Hash)
  | hashX (hash : Hash)
  | signedPayload (signer : SignedPayload)
deriving DecidableEq

def SignerKey.layout : Codec SignerKey :=
  union
    (fun
      | .ed25519 key => ⟨0, fixed 32, key⟩
      | .preAuthTx hash => ⟨1, fixed 32, hash⟩
      | .hashX hash => ⟨2, fixed 32, hash⟩
      | .signedPayload signer => ⟨3, SignedPayload.layout, signer⟩)
    (fun
      | 0 => .ed25519 <$> (fixed 32).read
      | 1 => .preAuthTx <$> (fixed 32).read
      | 2 => .hashX <$> (fixed 32).read
      | 3 => .signedPayload <$> SignedPayload.layout.read
      | _ => throw .invalidValue)

/-- What a contract may call or be called by. -/
inductive ScAddress
  | account (id : AccountId)
  | contract (id : ContractId)
  | muxedAccount (key : MuxedKey)
  | claimableBalance (id : BalanceId)
  | liquidityPool (id : PoolId)
deriving DecidableEq

def ScAddress.layout : Codec ScAddress :=
  union
    (fun
      | .account id => ⟨0, AccountId.layout, id⟩
      | .contract id => ⟨1, ContractId.layout, id⟩
      | .muxedAccount key => ⟨2, MuxedKey.layout, key⟩
      | .claimableBalance id => ⟨3, BalanceId.layout, id⟩
      | .liquidityPool id => ⟨4, PoolId.layout, id⟩)
    (fun
      | 0 => .account <$> AccountId.layout.read
      | 1 => .contract <$> ContractId.layout.read
      | 2 => .muxedAccount <$> MuxedKey.layout.read
      | 3 => .claimableBalance <$> BalanceId.layout.read
      | 4 => .liquidityPool <$> PoolId.layout.read
      | _ => throw .invalidValue)

end LedgerExport.Protocol
