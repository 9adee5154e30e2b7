import LedgerExport.Protocol.Key
import LedgerExport.Wide

/-!
# Contract values

The values that contracts take, give back, keep and put into events. A value is
a leaf, or a vector, a map or the storage of a contract made of values.

## Implementation notes

A vector, a map or a storage may be absent, which is not the same as empty. The
entries of a map are pairs in the order in which they arrive.
-/

namespace LedgerExport.Protocol

open Xdr

/-- Where an error of the host comes from. -/
inductive HostErrorKind
  | wasmVm | context | storage | object | crypto | events | budget | value | auth
deriving DecidableEq

/-- What went wrong in the host. -/
inductive HostErrorCode
  | arithDomain | indexBounds | invalidInput | missingValue | existingValue
  | exceededLimit | invalidAction | internalError | unexpectedType | unexpectedSize
deriving DecidableEq

namespace HostErrorCode

/-- All codes, in the order of their numbers. -/
def members : List HostErrorCode :=
  [arithDomain, indexBounds, invalidInput, missingValue, existingValue,
   exceededLimit, invalidAction, internalError, unexpectedType, unexpectedSize]

/-- The name shown for a code. -/
def name : HostErrorCode → String
  | arithDomain => "ArithDomain"
  | indexBounds => "IndexBounds"
  | invalidInput => "InvalidInput"
  | missingValue => "MissingValue"
  | existingValue => "ExistingValue"
  | exceededLimit => "ExceededLimit"
  | invalidAction => "InvalidAction"
  | internalError => "InternalError"
  | unexpectedType => "UnexpectedType"
  | unexpectedSize => "UnexpectedSize"

def layout : Codec HostErrorCode :=
  enumeration members fun code => UInt32.ofNat code.ctorIdx

end HostErrorCode

/-- An error as a value: of a contract with a number of its own, or of the host. -/
inductive ScError
  | contract (code : UInt32)
  | host (kind : HostErrorKind) (code : HostErrorCode)

def ScError.layout : Codec ScError :=
  union
    (fun
      | .contract code => ⟨0, uint32, code⟩
      | .host kind code => ⟨kind.ctorIdx + 1, HostErrorCode.layout, code⟩)
    (fun
      | 0 => .contract <$> uint32.read
      | 1 => .host .wasmVm <$> HostErrorCode.layout.read
      | 2 => .host .context <$> HostErrorCode.layout.read
      | 3 => .host .storage <$> HostErrorCode.layout.read
      | 4 => .host .object <$> HostErrorCode.layout.read
      | 5 => .host .crypto <$> HostErrorCode.layout.read
      | 6 => .host .events <$> HostErrorCode.layout.read
      | 7 => .host .budget <$> HostErrorCode.layout.read
      | 8 => .host .value <$> HostErrorCode.layout.read
      | 9 => .host .auth <$> HostErrorCode.layout.read
      | _ => throw .invalidValue)

/-- What a contract runs: code by its hash, or the built-in contract of an asset. -/
inductive Executable
  | wasm (hash : Hash)
  | stellarAsset

def Executable.layout : Codec Executable :=
  union
    (fun
      | .wasm hash => ⟨0, fixed 32, hash⟩
      | .stellarAsset => ⟨1, void, ()⟩)
    (fun
      | 0 => .wasm <$> (fixed 32).read
      | 1 => return .stellarAsset
      | _ => throw .invalidValue)

/-- A contract value. -/
inductive ScVal
  | bool (value : Bool)
  | void
  | error (error : ScError)
  | u32 (value : UInt32)
  | i32 (value : Int32)
  | u64 (value : UInt64)
  | i64 (value : Int64)
  | timepoint (time : UInt64)
  | duration (seconds : UInt64)
  | u128 (value : UInt128)
  | i128 (value : Int128)
  | u256 (value : UInt256)
  | i256 (value : Int256)
  | bytes (bytes : Octets)
  | string (text : Octets)
  | symbol (text : Octets)
  | vec (items : Option (List ScVal))
  | map (entries : Option (List (ScVal × ScVal)))
  | address (address : ScAddress)
  | contractInstance (executable : Executable) (storage : Option (List (ScVal × ScVal)))
  | ledgerKeyContractInstance
  | ledgerKeyNonce (nonce : Int64)

namespace ScVal

/-- The name of the kind of a value. -/
def kindName : ScVal → String
  | .bool _ => "Bool"
  | .void => "Void"
  | .error _ => "Error"
  | .u32 _ => "U32"
  | .i32 _ => "I32"
  | .u64 _ => "U64"
  | .i64 _ => "I64"
  | .timepoint _ => "Timepoint"
  | .duration _ => "Duration"
  | .u128 _ => "U128"
  | .i128 _ => "I128"
  | .u256 _ => "U256"
  | .i256 _ => "I256"
  | .bytes _ => "Bytes"
  | .string _ => "String"
  | .symbol _ => "Symbol"
  | .vec _ => "Vec"
  | .map _ => "Map"
  | .address _ => "Address"
  | .contractInstance _ _ => "ContractInstance"
  | .ledgerKeyContractInstance => "LedgerKeyContractInstance"
  | .ledgerKeyNonce _ => "LedgerKeyNonce"

mutual

/-- The number of levels of a value. -/
def depth : ScVal → Nat
  | .vec (some items) => depthAll items + 1
  | .map (some entries) => depthPairs entries + 1
  | .contractInstance _ (some storage) => depthPairs storage + 1
  | _ => 1

/-- The greatest number of levels of some values. -/
def depthAll : List ScVal → Nat
  | [] => 0
  | value :: values => max (depth value) (depthAll values)

/-- The greatest number of levels of the keys and values of a map. -/
def depthPairs : List (ScVal × ScVal) → Nat
  | [] => 0
  | (key, value) :: entries => max (max (depth key) (depth value)) (depthPairs entries)

end

/-- The layout of a value, given that of its parts. -/
def shape (part : Codec ScVal) : Codec ScVal :=
  let entries := many (pair part part)
  union
    (fun
      | .bool value => ⟨0, Xdr.bool, value⟩
      | .void => ⟨1, Xdr.void, ()⟩
      | .error e => ⟨2, ScError.layout, e⟩
      | .u32 value => ⟨3, uint32, value⟩
      | .i32 value => ⟨4, int32, value⟩
      | .u64 value => ⟨5, uint64, value⟩
      | .i64 value => ⟨6, int64, value⟩
      | .timepoint time => ⟨7, uint64, time⟩
      | .duration seconds => ⟨8, uint64, seconds⟩
      | .u128 value => ⟨9, UInt128.layout, value⟩
      | .i128 value => ⟨10, Int128.layout, value⟩
      | .u256 value => ⟨11, UInt256.layout, value⟩
      | .i256 value => ⟨12, Int256.layout, value⟩
      | .bytes content => ⟨13, octets unlimited, content⟩
      | .string text => ⟨14, octets unlimited, text⟩
      | .symbol text => ⟨15, octets 32, text⟩
      | .vec items => ⟨16, optional (many part), items⟩
      | .map items => ⟨17, optional entries, items⟩
      | .address a => ⟨18, ScAddress.layout, a⟩
      | .contractInstance executable storage =>
        ⟨19, pair Executable.layout (optional entries), (executable, storage)⟩
      | .ledgerKeyContractInstance => ⟨20, Xdr.void, ()⟩
      | .ledgerKeyNonce nonce => ⟨21, int64, nonce⟩)
    (fun
      | 0 => .bool <$> Xdr.bool.read
      | 1 => return .void
      | 2 => .error <$> ScError.layout.read
      | 3 => .u32 <$> uint32.read
      | 4 => .i32 <$> int32.read
      | 5 => .u64 <$> uint64.read
      | 6 => .i64 <$> int64.read
      | 7 => .timepoint <$> uint64.read
      | 8 => .duration <$> uint64.read
      | 9 => .u128 <$> UInt128.layout.read
      | 10 => .i128 <$> Int128.layout.read
      | 11 => .u256 <$> UInt256.layout.read
      | 12 => .i256 <$> Int256.layout.read
      | 13 => .bytes <$> (octets unlimited).read
      | 14 => .string <$> (octets unlimited).read
      | 15 => .symbol <$> (octets 32).read
      | 16 => .vec <$> (optional (many part)).read
      | 17 => .map <$> (optional entries).read
      | 18 => .address <$> ScAddress.layout.read
      | 19 => (fun (executable, storage) => .contractInstance executable storage) <$>
          (pair Executable.layout (optional entries)).read
      | 20 => return .ledgerKeyContractInstance
      | 21 => .ledgerKeyNonce <$> int64.read
      | _ => throw .invalidValue)

def layout : Codec ScVal :=
  recursive shape depth

end ScVal

end LedgerExport.Protocol
