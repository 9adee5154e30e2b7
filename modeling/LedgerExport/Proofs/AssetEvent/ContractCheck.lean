import LedgerExport.Proofs.AssetEvent.Shape
import LedgerExport.Proofs.Protocol.TransactionCodecs
import LedgerExport.Proofs.Text.WellFormed

/-!
# Events from the contract of an asset

The contract of an asset in a network is known by the hash of bytes that name the
network and the asset, and nothing else. An event is marked as coming from the
contract of the asset that it names exactly if its contract has this hash. So one
contract passes for two assets, or in two networks, only where the hash collides on
their bytes.

## Implementation notes

Byte strings that collide exist for every hash, so a collision is always one of the
two byte strings at hand.
-/

namespace LedgerExport

open Xdr Layout

/-- Two different byte strings with the same hash. -/
def Sha256.Collides (a b : Octets) : Prop :=
  a ≠ b ∧ hash a = hash b

namespace Protocol

theorem ContractPreimage.faithful : ContractPreimage.layout.Faithful :=
  faithful_single (by decide) <| readBy_make ContractPreimage.mk
    |>.field (faithful_fixed 32)
    |>.field ContractIdPreimage.faithful

namespace Asset

variable {network network' : NetworkId} {asset asset' : Asset}

theorem fits_contractPreimage (network : NetworkId) (asset : Asset) :
    ContractPreimage.layout.fits ⟨network.hash, .asset asset⟩ := by
  refine ⟨⟨trivial, trivial⟩, ?_⟩
  cases asset with
  | native => trivial
  | alphanum4 code issuer => exact ⟨⟨trivial, trivial⟩, trivial, trivial⟩
  | alphanum12 code issuer => exact ⟨⟨trivial, trivial⟩, trivial, trivial⟩

/-- The bytes that are hashed tell networks and assets apart. -/
theorem contractPreimage_inj :
    asset.contractPreimage network = asset'.contractPreimage network' ↔
      network = network' ∧ asset = asset' := by
  obtain ⟨hash⟩ := network
  obtain ⟨hash'⟩ := network'
  have hencode := ContractPreimage.faithful.encode_inj
    (fits_contractPreimage ⟨hash⟩ asset) (fits_contractPreimage ⟨hash'⟩ asset')
  rw [contractPreimage, contractPreimage, hencode, ContractPreimage.mk.injEq,
    ContractIdPreimage.asset.injEq, NetworkId.mk.injEq]

/-- Assets and networks with one contract are the same, or their bytes collide. -/
theorem eq_or_collides_of_contractId_eq
    (h : asset.contractId network = asset'.contractId network') :
    network = network' ∧ asset = asset' ∨
      Sha256.Collides (asset.contractPreimage network) (asset'.contractPreimage network') := by
  by_cases hbytes : asset.contractPreimage network = asset'.contractPreimage network'
  · exact .inl (contractPreimage_inj.mp hbytes)
  · exact .inr ⟨hbytes, ContractId.mk.inj h⟩

end Asset

end Protocol

namespace AssetEvent

open Protocol (Asset ContractEvent ContractId)

/-- A contract passes for that of an asset in a network if some event of it names the asset and is
marked there as coming from the asset's contract. -/
def PassesFor (contract : ContractId) (network : NetworkId) (asset : Asset) : Prop :=
  ∃ kind event payload name, decode kind event (some network) = .ok payload ∧
    event.contract = some contract ∧ payload.asset = some name ∧
    Asset.parse name = .ok asset ∧ payload.assetContract = true

theorem exists_decode_eq_ok_iff {kind : Kind} {event : ContractEvent}
    {network : Option NetworkId} :
    (∃ payload, decode kind event network = .ok payload) ↔
      ∃ move, Describes kind event.topics event.data move := by
  simp only [decode_eq_ok_iff]
  exact exists_reports_iff

section Decoded

variable {kind : Kind} {event : ContractEvent} {network : Option NetworkId}
  {payload : Record.AssetEvent}

/-- The name that is reported is the text of the last topic, if that names an asset. -/
theorem asset_eq_some_iff_of_decode (h : decode kind event network = .ok payload)
    {name : String} : payload.asset = some name ↔
      ∃ content asset, event.topics.getLast? = some (.string content) ∧
        Utf8.bytes name = content ∧ Asset.parse name = .ok asset := by
  rw [(decode_eq_ok_iff.mp h).asset]
  simp only [Utf8.string?_eq_some_iff]

/-- An event is marked exactly if its contract has the hash of the bytes of the network and of
the asset that it names. -/
theorem assetContract_iff_of_decode (h : decode kind event network = .ok payload) :
    payload.assetContract = true ↔
      ∃ id name asset contract, network = some id ∧ payload.asset = some name ∧
        Asset.parse name = .ok asset ∧ event.contract = some contract ∧
        contract.hash = Sha256.hash (asset.contractPreimage id) := by
  rw [(decode_eq_ok_iff.mp h).assetContract]
  constructor
  · rintro ⟨id, name, asset, hnetwork, hname, hasset, hcontract⟩
    exact ⟨id, name, asset, _, hnetwork, hname, hasset, hcontract, rfl⟩
  · rintro ⟨id, name, asset, ⟨hash⟩, hnetwork, hname, hasset, hcontract, rfl⟩
    exact ⟨id, name, asset, hnetwork, hname, hasset, hcontract⟩

end Decoded

theorem PassesFor.eq_contractId {contract : ContractId} {network : NetworkId} {asset : Asset}
    (h : PassesFor contract network asset) : contract = asset.contractId network := by
  obtain ⟨kind, event, payload, name, hdecode, hcontract, hname, hasset, hmarked⟩ := h
  obtain ⟨id, name', asset', found, hid, hname', hasset', hfound, hhash⟩ :=
    (assetContract_iff_of_decode hdecode).mp hmarked
  obtain rfl : id = network := Option.some.inj hid.symm
  obtain rfl : name' = name := Option.some.inj (hname'.symm.trans hname)
  obtain rfl : asset' = asset := Except.ok.inj (hasset'.symm.trans hasset)
  obtain rfl : found = contract := Option.some.inj (hfound.symm.trans hcontract)
  exact congrArg ContractId.mk hhash

/-- Whether an event is decoded depends on its shape alone. What is decoded names an asset exactly
if the last topic is the text of its name, and is marked exactly if the network is known and the
event's contract is the hash of the bytes of network and asset. These bytes tell networks and
assets apart, so a contract passes for two of them only where the hash collides. -/
theorem contract_check_sound_and_complete :
    (∀ (kind : Kind) (event : ContractEvent) (network : Option NetworkId),
      ((∃ payload, decode kind event network = .ok payload) ↔
        ∃ move, Describes kind event.topics event.data move) ∧
      ∀ payload, decode kind event network = .ok payload →
        (∀ name, payload.asset = some name ↔
          ∃ content asset, event.topics.getLast? = some (.string content) ∧
            Utf8.bytes name = content ∧ Asset.parse name = .ok asset) ∧
        (payload.assetContract = true ↔
          ∃ id name asset contract, network = some id ∧ payload.asset = some name ∧
            Asset.parse name = .ok asset ∧ event.contract = some contract ∧
            contract.hash = Sha256.hash (asset.contractPreimage id))) ∧
    (∀ (network network' : NetworkId) (asset asset' : Asset),
      asset.contractPreimage network = asset'.contractPreimage network' ↔
        network = network' ∧ asset = asset') ∧
    (∀ (contract : ContractId) (network network' : NetworkId) (asset asset' : Asset),
      PassesFor contract network asset → PassesFor contract network' asset' →
        network = network' ∧ asset = asset' ∨
          Sha256.Collides (asset.contractPreimage network)
            (asset'.contractPreimage network')) := by
  refine ⟨fun kind event network => ⟨exists_decode_eq_ok_iff, fun payload h => ?_⟩,
    fun _ _ _ _ => Protocol.Asset.contractPreimage_inj, ?_⟩
  · exact ⟨fun _ => asset_eq_some_iff_of_decode h, assetContract_iff_of_decode h⟩
  · intro contract network network' asset asset' h h'
    have hsame := h.eq_contractId.symm.trans h'.eq_contractId
    exact Protocol.Asset.eq_or_collides_of_contractId_eq hsame

/-- A transfer of the native asset by the contract of that asset is marked in its network, and not
marked without one. That contract passes for nothing else, unless the hash collides. -/
theorem native_transfer_marked_in_its_network :
    let contract := Asset.native.contractId .testnet
    let transfer : ContractEvent := ⟨some contract, .contract,
      [.symbol (Utf8.bytes "transfer"), .address (.account ⟨.zero 32⟩),
        .address (.contract ⟨.zero 32⟩), .string (Utf8.bytes "native")], .i128 ⟨0, 1⟩⟩
    (∃ payload, decode .transfer transfer none = .ok payload ∧
      payload.asset = some "native" ∧ payload.assetContract ≠ true) ∧
    (∃ payload, decode .transfer transfer (some .testnet) = .ok payload ∧
      payload.asset = some "native" ∧ payload.assetContract = true) ∧
    PassesFor contract .testnet .native ∧
    ∀ network asset, PassesFor contract network asset →
      NetworkId.testnet = network ∧ Asset.native = asset ∨
        Sha256.Collides (Asset.native.contractPreimage .testnet)
          (asset.contractPreimage network) := by
  intro contract transfer
  have hnative : Asset.parse "native" = .ok .native := if_pos rfl
  obtain ⟨hcheck, -, hcollides⟩ := contract_check_sound_and_complete
  obtain ⟨hshape, hpayload⟩ := hcheck .transfer transfer (some .testnet)
  obtain ⟨payload, hdecode⟩ := hshape.mpr ⟨_, .transfer⟩
  obtain ⟨hname, hmarked⟩ := hpayload payload hdecode
  have hnamed := (hname "native").mpr ⟨_, .native, rfl, rfl, hnative⟩
  have hmark := hmarked.mpr ⟨.testnet, "native", .native, _, rfl, hnamed, hnative, rfl, rfl⟩
  have hpasses : PassesFor contract .testnet .native :=
    ⟨_, _, payload, "native", hdecode, rfl, hnamed, hnative, hmark⟩
  refine ⟨?_, ⟨payload, hdecode, hnamed, hmark⟩, hpasses,
    fun network asset h => hcollides contract .testnet network .native asset hpasses h⟩
  obtain ⟨hshape, hpayload⟩ := hcheck .transfer transfer none
  obtain ⟨payload, hdecode⟩ := hshape.mpr ⟨_, .transfer⟩
  obtain ⟨hname, hmarked⟩ := hpayload payload hdecode
  refine ⟨payload, hdecode, (hname "native").mpr ⟨_, .native, rfl, rfl, hnative⟩, ?_⟩
  rw [ne_eq, hmarked]
  rintro ⟨id, _, _, _, hid, _⟩
  cases hid

end AssetEvent

end LedgerExport
