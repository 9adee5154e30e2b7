import LedgerExport.Proofs.Render.Entry
import LedgerExport.Render.Operation

/-!
# Contract calls are known by what is shown of them

Both ways of making a contract are shown by one record, and the arguments of its
constructor are there in the newer way only, be they none. A tree of calls is
shown branch by branch.
-/

namespace LedgerExport.Protocol

attribute [ext] InvokeContract CreateContract AddressCredentials AuthorizationEntry Footprint
  Resources SorobanData

/-! ## Calls -/

structure InvokeContract.Legible (p : InvokeContract) : Prop where
  functionName : Utf8.WellFormed p.functionName
  args : ∀ value ∈ p.args, value.Legible

theorem InvokeContract.render_injOn : Set.InjOn InvokeContract.render {p | p.Legible} := by
  intro p hp p' hp' h
  obtain ⟨hcontract, hfunctionName, hargs⟩ := Record.InvokeContract.mk.inj h
  exact InvokeContract.ext (ScAddress.render_injective hcontract)
    (Utf8.lossy_injOn hp.functionName hp'.functionName hfunctionName)
    (injOn_list_map ScVal.render_injOn hp.args hp'.args hargs)

def ContractIdPreimage.Legible : ContractIdPreimage → Prop
  | .address _ _ => True
  | .asset a => a.Legible

theorem ContractIdPreimage.render_injOn : Set.InjOn ContractIdPreimage.render {p | p.Legible} := by
  intro p hp p' hp' h
  cases p with
  | address a salt =>
      cases p' with
      | address a' salt' =>
          obtain ⟨haddress, hsalt⟩ := Record.ContractIdPreimage.address.inj h
          rw [ScAddress.render_injective haddress, FixedBytes.ext (Hex.text_injective hsalt)]
      | asset a' => cases h
  | asset a =>
      cases p' with
      | address a' salt' => cases h
      | asset a' => rw [Asset.render_injOn hp hp' (Record.ContractIdPreimage.asset.inj h)]

def CreateContract.Legible (p : CreateContract) : Prop :=
  p.preimage.Legible

theorem CreateContract.render_injOn : Set.InjOn CreateContract.render {p | p.Legible} := by
  intro p hp p' hp' h
  obtain ⟨hpreimage, hexecutable, -⟩ := Record.CreateContract.mk.inj h
  exact CreateContract.ext (ContractIdPreimage.render_injOn hp hp' hpreimage)
    (Executable.render_injective hexecutable)

/-- A contract made with arguments shows the contract and the arguments. -/
theorem CreateContract.renderWith_inj {p p' : CreateContract} {arguments arguments' : List ScVal}
    (hp : p.Legible) (hp' : p'.Legible) (harguments : ∀ value ∈ arguments, value.Legible)
    (harguments' : ∀ value ∈ arguments', value.Legible)
    (h : p.renderWith arguments = p'.renderWith arguments') : p = p' ∧ arguments = arguments' := by
  obtain ⟨hpreimage, hexecutable, hvalues⟩ := Record.CreateContract.mk.inj h
  refine ⟨?_, ?_⟩
  · exact CreateContract.ext (ContractIdPreimage.render_injOn hp hp' hpreimage)
      (Executable.render_injective hexecutable)
  · exact injOn_list_map ScVal.render_injOn harguments harguments' (Option.some.inj hvalues)

def HostFunction.Legible : HostFunction → Prop
  | .invokeContract call => call.Legible
  | .createContract contract => contract.Legible
  | .uploadWasm _ => True
  | .createContractV2 contract arguments =>
    contract.Legible ∧ ∀ value ∈ arguments, value.Legible

theorem HostFunction.render_injOn : Set.InjOn HostFunction.render {f | f.Legible} := by
  intro f hf f' hf' h
  cases f with
  | invokeContract call =>
      cases f' with
      | invokeContract call' =>
          rw [InvokeContract.render_injOn hf hf' (Record.HostFunction.invokeContract.inj h)]
      | _ => cases h
  | createContract contract =>
      cases f' with
      | createContract contract' =>
          rw [CreateContract.render_injOn hf hf' (Record.HostFunction.createContract.inj h)]
      | _ => cases h
  | uploadWasm code =>
      cases f' with
      | uploadWasm code' => rw [Hex.text_injective (Record.HostFunction.uploadWasm.inj h)]
      | _ => cases h
  | createContractV2 contract arguments =>
      cases f' with
      | createContractV2 contract' arguments' =>
          obtain ⟨rfl, rfl⟩ := CreateContract.renderWith_inj hf.1 hf'.1 hf.2 hf'.2
            (Record.HostFunction.createContractV2.inj h)
          rfl
      | _ => cases h

/-! ## Trees of calls -/

def AuthorizedFunction.Legible : AuthorizedFunction → Prop
  | .contract call => call.Legible
  | .createContract c => c.Legible
  | .createContractV2 c arguments => c.Legible ∧ ∀ value ∈ arguments, value.Legible

theorem AuthorizedFunction.render_injOn : Set.InjOn AuthorizedFunction.render {f | f.Legible} := by
  intro f hf f' hf' h
  cases f with
  | contract call =>
      cases f' with
      | contract call' =>
          rw [InvokeContract.render_injOn hf hf' (Record.AuthorizedFunction.contract.inj h)]
      | _ => cases h
  | createContract c =>
      cases f' with
      | createContract c' =>
          rw [CreateContract.render_injOn hf hf' (Record.AuthorizedFunction.createContract.inj h)]
      | _ => cases h
  | createContractV2 c arguments =>
      cases f' with
      | createContractV2 c' arguments' =>
          obtain ⟨rfl, rfl⟩ := CreateContract.renderWith_inj hf.1 hf'.1 hf.2 hf'.2
            (Record.AuthorizedFunction.createContractV2.inj h)
          rfl
      | _ => cases h

namespace AuthorizedInvocation

mutual

/-- Every call of a tree is legible. -/
def Legible : AuthorizedInvocation → Prop
  | .mk function calls => function.Legible ∧ LegibleAll calls

/-- So are those of each of some trees. -/
def LegibleAll : List AuthorizedInvocation → Prop
  | [] => True
  | call :: calls => call.Legible ∧ LegibleAll calls

end

mutual

theorem eq_of_render_eq (tree tree' : AuthorizedInvocation) (ht : tree.Legible)
    (ht' : tree'.Legible) (h : tree.render = tree'.render) : tree = tree' := by
  match tree, tree' with
  | .mk function calls, .mk function' calls' =>
      obtain ⟨hfunction, hcalls⟩ := Record.AuthorizedInvocation.mk.inj h
      rw [AuthorizedFunction.render_injOn ht.1 ht'.1 hfunction,
        eq_of_renderAll_eq calls calls' ht.2 ht'.2 hcalls]

theorem eq_of_renderAll_eq (calls calls' : List AuthorizedInvocation) (hc : LegibleAll calls)
    (hc' : LegibleAll calls') (h : renderAll calls = renderAll calls') : calls = calls' := by
  match calls, calls' with
  | [], [] => rfl
  | [], _ :: _ => cases h
  | _ :: _, [] => cases h
  | call :: calls, call' :: calls' =>
      obtain ⟨hcall, hcalls⟩ := List.cons.inj h
      rw [eq_of_render_eq call call' hc.1 hc'.1 hcall,
        eq_of_renderAll_eq calls calls' hc.2 hc'.2 hcalls]

end

theorem render_injOn : Set.InjOn render {tree | tree.Legible} :=
  fun tree ht tree' ht' h => eq_of_render_eq tree tree' ht ht' h

end AuthorizedInvocation

/-! ## Consent -/

def AddressCredentials.Legible (p : AddressCredentials) : Prop :=
  p.signature.Legible

theorem AddressCredentials.render_injOn : Set.InjOn AddressCredentials.render {p | p.Legible} := by
  intro p hp p' hp' h
  obtain ⟨haddress, hnonce, hexpiration, hsignature⟩ := Record.AddressCredentials.mk.inj h
  exact AddressCredentials.ext (ScAddress.render_injective haddress) hnonce hexpiration
    (ScVal.render_injOn hp hp' hsignature)

def Credentials.Legible : Credentials → Prop
  | .sourceAccount => True
  | .address c => c.Legible

theorem Credentials.render_injOn : Set.InjOn Credentials.render {c | c.Legible} := by
  intro c hc c' hc' h
  cases c with
  | sourceAccount =>
      cases c' with
      | sourceAccount => rfl
      | address a' => cases h
  | address a =>
      cases c' with
      | sourceAccount => cases h
      | address a' =>
          rw [AddressCredentials.render_injOn hc hc' (Record.Credentials.address.inj h)]

structure AuthorizationEntry.Legible (p : AuthorizationEntry) : Prop where
  credentials : p.credentials.Legible
  root : p.root.Legible

theorem AuthorizationEntry.render_injOn : Set.InjOn AuthorizationEntry.render {p | p.Legible} := by
  intro p hp p' hp' h
  obtain ⟨hcredentials, hroot⟩ := Record.AuthorizationEntry.mk.inj h
  exact AuthorizationEntry.ext
    (Credentials.render_injOn hp.credentials hp'.credentials hcredentials)
    (AuthorizedInvocation.render_injOn hp.root hp'.root hroot)

/-! ## What a call may use -/

structure Footprint.Legible (p : Footprint) : Prop where
  readOnly : ∀ key ∈ p.readOnly, key.Legible
  readWrite : ∀ key ∈ p.readWrite, key.Legible

theorem Footprint.render_injOn : Set.InjOn Footprint.render {p | p.Legible} := by
  intro p hp p' hp' h
  obtain ⟨hreadOnly, hreadWrite⟩ := Record.Footprint.mk.inj h
  exact Footprint.ext (injOn_list_map LedgerKey.render_injOn hp.readOnly hp'.readOnly hreadOnly)
    (injOn_list_map LedgerKey.render_injOn hp.readWrite hp'.readWrite hreadWrite)

def SorobanData.Legible (p : SorobanData) : Prop :=
  p.resources.footprint.Legible

theorem SorobanData.render_injOn : Set.InjOn SorobanData.render {p | p.Legible} := by
  intro p hp p' hp' h
  obtain ⟨hresources, hresourceFee, harchivedEntries⟩ := Record.SorobanData.mk.inj h
  obtain ⟨hfootprint, hinstructions, hdiskReadBytes, hwriteBytes⟩ :=
    Record.Resources.mk.inj hresources
  have hresources : p.resources = p'.resources :=
    Resources.ext (Footprint.render_injOn hp hp' hfootprint) hinstructions hdiskReadBytes
      hwriteBytes
  exact SorobanData.ext harchivedEntries hresources hresourceFee

end LedgerExport.Protocol
