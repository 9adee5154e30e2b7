import LedgerExport.Record.Entry

/-!
# Contract calls as records

Contract calls, the trees of calls that addresses consent to, and what a call
may use. Both forms of making a contract are one record; only the newer one has
arguments.
-/

namespace LedgerExport.Record

open Form

/-- The call of a function of a contract. -/
structure InvokeContract where
  contract : ScAddress
  functionName : String
  args : List ScVal

def InvokeContract.form : Form InvokeContract :=
  record <| Fields.make InvokeContract.mk
    |>.field "contract_address" ScAddress.form (·.contract)
    |>.field "function_name" text (·.functionName)
    |>.field "args" (list ScVal.form) (·.args)

/-- What the hash of a new contract is made of. -/
inductive ContractIdPreimage
  | address (address : ScAddress) (salt : String)
  | asset (asset : Asset)

namespace ContractIdPreimage

/-- An address and a salt. -/
def addressFields : Fields (ScAddress × String) (ScAddress × String) :=
  Fields.make Prod.mk |>.field "address" ScAddress.form (·.1) |>.field "salt" text (·.2)

def form : Form ContractIdPreimage :=
  tagged
    (fun
      | .address a salt => ⟨"address", named addressFields, (a, salt)⟩
      | .asset a => ⟨"asset", value Asset.form, a⟩)
    (fun
      | "address" => (named addressFields).into fun (a, salt) => .address a salt
      | "asset" => (value Asset.form).into .asset
      | _ => fun _ => none)

end ContractIdPreimage

/-- The making of a contract. -/
structure CreateContract where
  preimage : ContractIdPreimage
  executable : Executable
  arguments : Option (List ScVal)

def CreateContract.form : Form CreateContract :=
  record <| Fields.make CreateContract.mk
    |>.field "contract_id_preimage" ContractIdPreimage.form (·.preimage)
    |>.field "executable" Executable.form (·.executable)
    |>.field "constructor_args" (option (list ScVal.form)) (·.arguments)

/-- What the host is asked to do. -/
inductive HostFunction
  | invokeContract (call : InvokeContract)
  | createContract (contract : CreateContract)
  | uploadWasm (code : String)
  | createContractV2 (contract : CreateContract)

def HostFunction.form : Form HostFunction :=
  tagged
    (fun
      | .invokeContract call => ⟨"invoke_contract", value InvokeContract.form, call⟩
      | .createContract contract => ⟨"create_contract", value CreateContract.form, contract⟩
      | .uploadWasm code => ⟨"upload_contract_wasm", value text, code⟩
      | .createContractV2 contract => ⟨"create_contract_v2", value CreateContract.form, contract⟩)
    (fun
      | "invoke_contract" => (value InvokeContract.form).into .invokeContract
      | "create_contract" => (value CreateContract.form).into .createContract
      | "upload_contract_wasm" => (value text).into .uploadWasm
      | "create_contract_v2" => (value CreateContract.form).into .createContractV2
      | _ => fun _ => none)

/-- A call that an address consents to. -/
inductive AuthorizedFunction
  | contract (call : InvokeContract)
  | createContract (contract : CreateContract)
  | createContractV2 (contract : CreateContract)

def AuthorizedFunction.form : Form AuthorizedFunction :=
  tagged
    (fun
      | .contract call => ⟨"contract_fn", value InvokeContract.form, call⟩
      | .createContract c => ⟨"create_contract_host_fn", value CreateContract.form, c⟩
      | .createContractV2 c => ⟨"create_contract_v2_host_fn", value CreateContract.form, c⟩)
    (fun
      | "contract_fn" => (value InvokeContract.form).into .contract
      | "create_contract_host_fn" => (value CreateContract.form).into .createContract
      | "create_contract_v2_host_fn" => (value CreateContract.form).into .createContractV2
      | _ => fun _ => none)

/-- A call and the calls that it makes in turn. -/
inductive AuthorizedInvocation
  | mk (function : AuthorizedFunction) (calls : List AuthorizedInvocation)

namespace AuthorizedInvocation

/-- The call itself. -/
def function : AuthorizedInvocation → AuthorizedFunction
  | .mk function _ => function

/-- The calls that it makes. -/
def calls : AuthorizedInvocation → List AuthorizedInvocation
  | .mk _ calls => calls

mutual

/-- The number of levels of a tree of calls. -/
def depth : AuthorizedInvocation → Nat
  | .mk _ calls => depthAll calls + 1

/-- The greatest number of levels of some trees of calls. -/
def depthAll : List AuthorizedInvocation → Nat
  | [] => 0
  | call :: calls => max (depth call) (depthAll calls)

end

/-- The form of a tree, given that of its branches. -/
def shape (branch : Form AuthorizedInvocation) : Form AuthorizedInvocation :=
  record <| Fields.make AuthorizedInvocation.mk
    |>.field "function" AuthorizedFunction.form (·.function)
    |>.field "sub_invocations" (list branch) (·.calls)

def form : Form AuthorizedInvocation :=
  recursive shape depth

end AuthorizedInvocation

/-- The consent of an address. -/
structure AddressCredentials where
  address : ScAddress
  nonce : Int64
  signatureExpirationLedger : UInt32
  signature : ScVal

def AddressCredentials.form : Form AddressCredentials :=
  record <| Fields.make AddressCredentials.mk
    |>.field "address" ScAddress.form (·.address)
    |>.field "nonce" int64 (·.nonce)
    |>.field "signature_expiration_ledger" uint32 (·.signatureExpirationLedger)
    |>.field "signature" ScVal.form (·.signature)

/-- Who consents to a call: the source of the transaction, or an address. -/
inductive Credentials
  | sourceAccount
  | address (credentials : AddressCredentials)

def Credentials.form : Form Credentials :=
  tagged
    (fun
      | .sourceAccount => ⟨"source_account", unit, ()⟩
      | .address c => ⟨"address", value AddressCredentials.form, c⟩)
    (fun
      | "source_account" => unit.into fun _ => .sourceAccount
      | "address" => (value AddressCredentials.form).into .address
      | _ => fun _ => none)

/-- A tree of calls and the consent to it. -/
structure AuthorizationEntry where
  credentials : Credentials
  root : AuthorizedInvocation

def AuthorizationEntry.form : Form AuthorizationEntry :=
  record <| Fields.make AuthorizationEntry.mk
    |>.field "credentials" Credentials.form (·.credentials)
    |>.field "root_invocation" AuthorizedInvocation.form (·.root)

/-- The entries that a contract call reads and writes. -/
structure Footprint where
  readOnly : List LedgerKey
  readWrite : List LedgerKey

def Footprint.form : Form Footprint :=
  record <| Fields.make Footprint.mk
    |>.field "read_only" (list LedgerKey.form) (·.readOnly)
    |>.field "read_write" (list LedgerKey.form) (·.readWrite)

/-- What a contract call may use. -/
structure Resources where
  footprint : Footprint
  instructions : UInt32
  diskReadBytes : UInt32
  writeBytes : UInt32

def Resources.form : Form Resources :=
  record <| Fields.make Resources.mk
    |>.field "footprint" Footprint.form (·.footprint)
    |>.field "instructions" uint32 (·.instructions)
    |>.field "disk_read_bytes" uint32 (·.diskReadBytes)
    |>.field "write_bytes" uint32 (·.writeBytes)

/-- What a transaction says about its contract call. -/
structure SorobanData where
  resources : Resources
  resourceFee : Int64
  archivedEntries : Option (List UInt32)

def SorobanData.form : Form SorobanData :=
  record <| Fields.make SorobanData.mk
    |>.field "resources" Resources.form (·.resources)
    |>.field "resource_fee" int64 (·.resourceFee)
    |>.field "archived_soroban_entries" (option (list uint32)) (·.archivedEntries)

end LedgerExport.Record
