import LedgerExport.Protocol.Entry

/-!
# Contract calls and their authorization

What a transaction asks of the host of contracts, the trees of calls that
addresses consent to, and what a call may use.
-/

namespace LedgerExport.Protocol

open Xdr

/-- The call of a function of a contract. -/
structure InvokeContract where
  contract : ScAddress
  functionName : Octets
  args : List ScVal

def InvokeContract.layout : Codec InvokeContract :=
  Layout.make InvokeContract.mk
    |>.field ScAddress.layout (·.contract)
    |>.field (octets 32) (·.functionName)
    |>.field (many ScVal.layout) (·.args)

/-- What the hash of a new contract is made of. -/
inductive ContractIdPreimage
  | address (address : ScAddress) (salt : FixedBytes 32)
  | asset (asset : Asset)

namespace ContractIdPreimage

/-- Behind the tag of an address. -/
def addressLayout : Codec (ScAddress × FixedBytes 32) :=
  pair ScAddress.layout (fixed 32)

def layout : Codec ContractIdPreimage :=
  union
    (fun
      | .address a salt => ⟨0, addressLayout, (a, salt)⟩
      | .asset a => ⟨1, Asset.layout, a⟩)
    (fun
      | 0 => (fun (a, salt) => .address a salt) <$> addressLayout.read
      | 1 => .asset <$> Asset.layout.read
      | _ => throw .invalidValue)

end ContractIdPreimage

/-- The making of a contract; only the newer form may give arguments to its constructor. -/
structure CreateContract where
  preimage : ContractIdPreimage
  executable : Executable

def CreateContract.layout : Codec CreateContract :=
  Layout.make CreateContract.mk
    |>.field ContractIdPreimage.layout (·.preimage)
    |>.field Executable.layout (·.executable)

/-- The newer form, with arguments. -/
def CreateContract.withArguments : Codec (CreateContract × List ScVal) :=
  pair CreateContract.layout (many ScVal.layout)

/-- What the host is asked to do. -/
inductive HostFunction
  | invokeContract (call : InvokeContract)
  | createContract (contract : CreateContract)
  | uploadWasm (code : Octets)
  | createContractV2 (contract : CreateContract) (arguments : List ScVal)

def HostFunction.layout : Codec HostFunction :=
  union
    (fun
      | .invokeContract call => ⟨0, InvokeContract.layout, call⟩
      | .createContract contract => ⟨1, CreateContract.layout, contract⟩
      | .uploadWasm code => ⟨2, octets unlimited, code⟩
      | .createContractV2 contract arguments =>
        ⟨3, CreateContract.withArguments, (contract, arguments)⟩)
    (fun
      | 0 => .invokeContract <$> InvokeContract.layout.read
      | 1 => .createContract <$> CreateContract.layout.read
      | 2 => .uploadWasm <$> (octets unlimited).read
      | 3 => (fun (contract, arguments) => .createContractV2 contract arguments) <$>
          CreateContract.withArguments.read
      | _ => throw .invalidValue)

/-- A call that an address consents to. -/
inductive AuthorizedFunction
  | contract (call : InvokeContract)
  | createContract (contract : CreateContract)
  | createContractV2 (contract : CreateContract) (arguments : List ScVal)

def AuthorizedFunction.layout : Codec AuthorizedFunction :=
  union
    (fun
      | .contract call => ⟨0, InvokeContract.layout, call⟩
      | .createContract c => ⟨1, CreateContract.layout, c⟩
      | .createContractV2 c arguments => ⟨2, CreateContract.withArguments, (c, arguments)⟩)
    (fun
      | 0 => .contract <$> InvokeContract.layout.read
      | 1 => .createContract <$> CreateContract.layout.read
      | 2 => (fun (c, arguments) => .createContractV2 c arguments) <$>
          CreateContract.withArguments.read
      | _ => throw .invalidValue)

/-- A call and the calls that it makes in turn. -/
inductive AuthorizedInvocation
  | mk (function : AuthorizedFunction) (calls : List AuthorizedInvocation)

namespace AuthorizedInvocation

/-- The call itself. -/
def function : AuthorizedInvocation → AuthorizedFunction
  | .mk function _ => function

/-- The calls that it makes. -/
def calls : AuthorizedInvocation → List AuthorizedInvocation
  | .mk _ calls => calls

mutual

/-- The number of levels of a tree of calls. -/
def depth : AuthorizedInvocation → Nat
  | .mk _ calls => depthAll calls + 1

/-- The greatest number of levels of some trees of calls. -/
def depthAll : List AuthorizedInvocation → Nat
  | [] => 0
  | call :: calls => max (depth call) (depthAll calls)

end

/-- The layout of a tree, given that of its branches. -/
def shape (branch : Codec AuthorizedInvocation) : Codec AuthorizedInvocation :=
  Layout.make AuthorizedInvocation.mk
    |>.field AuthorizedFunction.layout (·.function)
    |>.field (many branch) (·.calls)

def layout : Codec AuthorizedInvocation :=
  recursive shape depth

end AuthorizedInvocation

/-- The consent of an address. -/
structure AddressCredentials where
  address : ScAddress
  nonce : Int64
  signatureExpirationLedger : UInt32
  signature : ScVal

def AddressCredentials.layout : Codec AddressCredentials :=
  Layout.make AddressCredentials.mk
    |>.field ScAddress.layout (·.address)
    |>.field int64 (·.nonce)
    |>.field uint32 (·.signatureExpirationLedger)
    |>.field ScVal.layout (·.signature)

/-- Who consents to a call: the source of the transaction, or an address. -/
inductive Credentials
  | sourceAccount
  | address (credentials : AddressCredentials)

def Credentials.layout : Codec Credentials :=
  union
    (fun
      | .sourceAccount => ⟨0, void, ()⟩
      | .address c => ⟨1, AddressCredentials.layout, c⟩)
    (fun
      | 0 => return .sourceAccount
      | 1 => .address <$> AddressCredentials.layout.read
      | _ => throw .invalidValue)

/-- A tree of calls and the consent to it. -/
structure AuthorizationEntry where
  credentials : Credentials
  root : AuthorizedInvocation

def AuthorizationEntry.layout : Codec AuthorizationEntry :=
  Layout.make AuthorizationEntry.mk
    |>.field Credentials.layout (·.credentials)
    |>.field AuthorizedInvocation.layout (·.root)

/-- The entries that a contract call reads and writes. -/
structure Footprint where
  readOnly : List LedgerKey
  readWrite : List LedgerKey

def Footprint.layout : Codec Footprint :=
  Layout.make Footprint.mk
    |>.field (many LedgerKey.layout) (·.readOnly)
    |>.field (many LedgerKey.layout) (·.readWrite)

/-- What a contract call may use. -/
structure Resources where
  footprint : Footprint
  instructions : UInt32
  diskReadBytes : UInt32
  writeBytes : UInt32

def Resources.layout : Codec Resources :=
  Layout.make Resources.mk
    |>.field Footprint.layout (·.footprint)
    |>.field uint32 (·.instructions)
    |>.field uint32 (·.diskReadBytes)
    |>.field uint32 (·.writeBytes)

/-- What a transaction says about its contract call. -/
structure SorobanData where
  archivedEntries : Option (List UInt32)
  resources : Resources
  resourceFee : Int64

def SorobanData.layout : Codec SorobanData :=
  Layout.make SorobanData.mk
    |>.field (extension 1 (many uint32)) (·.archivedEntries)
    |>.field Resources.layout (·.resources)
    |>.field int64 (·.resourceFee)

end LedgerExport.Protocol
