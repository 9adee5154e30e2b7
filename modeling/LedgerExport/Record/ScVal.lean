import LedgerExport.Record.Asset
import LedgerExport.Wide

/-!
# Contract values as records

A contract value with its bytes in hexadecimal digits, its strings as texts and
its addresses by their texts. A map is shown as a list of its entries.
-/

namespace LedgerExport.Record

open Form

/-! ## Wide integers -/

def Int128.form : Form Int128 :=
  record <| Fields.make Int128.mk
    |>.field "hi" int64 (·.hi)
    |>.field "lo" uint64 (·.lo)

def UInt128.form : Form UInt128 :=
  record <| Fields.make UInt128.mk
    |>.field "hi" uint64 (·.hi)
    |>.field "lo" uint64 (·.lo)

def Int256.form : Form Int256 :=
  record <| Fields.make Int256.mk
    |>.field "hi_hi" int64 (·.hiHi)
    |>.field "hi_lo" uint64 (·.hiLo)
    |>.field "lo_hi" uint64 (·.loHi)
    |>.field "lo_lo" uint64 (·.loLo)

def UInt256.form : Form UInt256 :=
  record <| Fields.make UInt256.mk
    |>.field "hi_hi" uint64 (·.hiHi)
    |>.field "hi_lo" uint64 (·.hiLo)
    |>.field "lo_hi" uint64 (·.loHi)
    |>.field "lo_lo" uint64 (·.loLo)

/-! ## Values -/

/-- Where an error of the host comes from. -/
inductive HostErrorKind
  | wasmVm | context | storage | object | crypto | events | budget | value | auth

/-- The printed name of where an error comes from. -/
def HostErrorKind.name : HostErrorKind → String
  | .wasmVm => "wasm_vm"
  | .context => "context"
  | .storage => "storage"
  | .object => "object"
  | .crypto => "crypto"
  | .events => "events"
  | .budget => "budget"
  | .value => "value"
  | .auth => "auth"

/-- An error as a value; that of the host by the name of its code. -/
inductive ScError
  | contract (code : UInt32)
  | host (kind : HostErrorKind) (code : String)

def ScError.form : Form ScError :=
  tagged
    (fun
      | .contract code => ⟨"contract", value uint32, code⟩
      | .host kind code => ⟨kind.name, value text, code⟩)
    (fun
      | "contract" => (value uint32).into .contract
      | "wasm_vm" => (value text).into (.host .wasmVm)
      | "context" => (value text).into (.host .context)
      | "storage" => (value text).into (.host .storage)
      | "object" => (value text).into (.host .object)
      | "crypto" => (value text).into (.host .crypto)
      | "events" => (value text).into (.host .events)
      | "budget" => (value text).into (.host .budget)
      | "value" => (value text).into (.host .value)
      | "auth" => (value text).into (.host .auth)
      | _ => fun _ => none)

/-- What a contract runs: code by its hash, or the built-in contract of an asset. -/
inductive Executable
  | wasm (hash : Hash)
  | stellarAsset

def Executable.form : Form Executable :=
  tagged
    (fun
      | .wasm h => ⟨"wasm", value hash, h⟩
      | .stellarAsset => ⟨"stellar_asset", unit, ()⟩)
    (fun
      | "wasm" => (value hash).into .wasm
      | "stellar_asset" => unit.into fun _ => .stellarAsset
      | _ => fun _ => none)

/-- A contract value. -/
inductive ScVal
  | bool (value : Bool)
  | void
  | error (error : ScError)
  | u32 (value : UInt32)
  | i32 (value : Int32)
  | u64 (value : UInt64)
  | i64 (value : Int64)
  | timepoint (time : UInt64)
  | duration (seconds : UInt64)
  | u128 (value : UInt128)
  | i128 (value : Int128)
  | u256 (value : UInt256)
  | i256 (value : Int256)
  | bytes (digits : String)
  | string (text : String)
  | symbol (text : String)
  | vec (items : Option (List ScVal))
  | map (entries : Option (List (ScVal × ScVal)))
  | address (address : ScAddress)
  | contractInstance (executable : Executable) (storage : Option (List (ScVal × ScVal)))
  | ledgerKeyContractInstance
  | ledgerKeyNonce (nonce : Int64)

namespace ScVal

mutual

/-- The number of levels of a value. -/
def depth : ScVal → Nat
  | .vec (some items) => depthAll items + 1
  | .map (some entries) => depthPairs entries + 1
  | .contractInstance _ (some storage) => depthPairs storage + 1
  | _ => 1

/-- The greatest number of levels of some values. -/
def depthAll : List ScVal → Nat
  | [] => 0
  | value :: values => max (depth value) (depthAll values)

/-- The greatest number of levels of the keys and values of a map. -/
def depthPairs : List (ScVal × ScVal) → Nat
  | [] => 0
  | (key, value) :: entries => max (max (depth key) (depth value)) (depthPairs entries)

end

/-- An entry of a map. -/
def entryForm (part : Form ScVal) : Form (ScVal × ScVal) :=
  record <| Fields.make Prod.mk |>.field "key" part (·.1) |>.field "val" part (·.2)

/-- What a contract runs and keeps. -/
def instanceForm (part : Form ScVal) :
    Form (Executable × Option (List (ScVal × ScVal))) :=
  record <| Fields.make Prod.mk
    |>.field "executable" Executable.form (·.1)
    |>.field "storage" (option (list (entryForm part))) (·.2)

/-- The form of a value, given that of its parts. -/
def shape (part : Form ScVal) : Form ScVal :=
  tagged
    (fun
      | .bool b => ⟨"bool", value Form.bool, b⟩
      | .void => ⟨"void", unit, ()⟩
      | .error e => ⟨"error", value ScError.form, e⟩
      | .u32 n => ⟨"u32", value uint32, n⟩
      | .i32 n => ⟨"i32", value int32, n⟩
      | .u64 n => ⟨"u64", value uint64, n⟩
      | .i64 n => ⟨"i64", value int64, n⟩
      | .timepoint n => ⟨"timepoint", value uint64, n⟩
      | .duration n => ⟨"duration", value uint64, n⟩
      | .u128 n => ⟨"u128", value UInt128.form, n⟩
      | .i128 n => ⟨"i128", value Int128.form, n⟩
      | .u256 n => ⟨"u256", value UInt256.form, n⟩
      | .i256 n => ⟨"i256", value Int256.form, n⟩
      | .bytes digits => ⟨"bytes", value text, digits⟩
      | .string t => ⟨"string", value text, t⟩
      | .symbol t => ⟨"symbol", value text, t⟩
      | .vec items => ⟨"vec", value (option (list part)), items⟩
      | .map entries => ⟨"map", value (option (list (entryForm part))), entries⟩
      | .address a => ⟨"address", value ScAddress.form, a⟩
      | .contractInstance executable storage =>
        ⟨"contract_instance", value (instanceForm part), (executable, storage)⟩
      | .ledgerKeyContractInstance => ⟨"ledger_key_contract_instance", unit, ()⟩
      | .ledgerKeyNonce n => ⟨"ledger_key_nonce", value int64, n⟩)
    (fun
      | "bool" => (value Form.bool).into .bool
      | "void" => unit.into fun _ => .void
      | "error" => (value ScError.form).into .error
      | "u32" => (value uint32).into .u32
      | "i32" => (value int32).into .i32
      | "u64" => (value uint64).into .u64
      | "i64" => (value int64).into .i64
      | "timepoint" => (value uint64).into .timepoint
      | "duration" => (value uint64).into .duration
      | "u128" => (value UInt128.form).into .u128
      | "i128" => (value Int128.form).into .i128
      | "u256" => (value UInt256.form).into .u256
      | "i256" => (value Int256.form).into .i256
      | "bytes" => (value text).into .bytes
      | "string" => (value text).into .string
      | "symbol" => (value text).into .symbol
      | "vec" => (value (option (list part))).into .vec
      | "map" => (value (option (list (entryForm part)))).into .map
      | "address" => (value ScAddress.form).into .address
      | "contract_instance" =>
        (value (instanceForm part)).into fun (executable, storage) =>
          .contractInstance executable storage
      | "ledger_key_contract_instance" => unit.into fun _ => .ledgerKeyContractInstance
      | "ledger_key_nonce" => (value int64).into .ledgerKeyNonce
      | _ => fun _ => none)

def form : Form ScVal :=
  recursive shape depth

end ScVal

end LedgerExport.Record
