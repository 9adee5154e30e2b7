import LedgerExport.Digest.Sha256
import LedgerExport.Protocol.Transaction
import LedgerExport.Text.Utf8

/-!
# Networks and what is bound to one

A network is identified by the hash of its passphrase. The hash of a transaction
and the identifier of the built-in contract of an asset are hashes of values
that name the network, so neither means anything in another one.
-/

namespace LedgerExport

/-- The identifier of a network. -/
structure NetworkId where
  hash : Hash

namespace NetworkId

/-- The network of a passphrase. -/
def ofPassphrase (passphrase : String) : NetworkId :=
  ⟨Sha256.hash (Utf8.bytes passphrase)⟩

/-- The passphrase of the main network. -/
def mainnetPassphrase : String :=
  "Public Global Stellar Network ; September 2015"

/-- The passphrase of the test network. -/
def testnetPassphrase : String :=
  "Test SDF Network ; September 2015"

def mainnet : NetworkId := ofPassphrase mainnetPassphrase

def testnet : NetworkId := ofPassphrase testnetPassphrase

end NetworkId

namespace Protocol

open Xdr

/-- What is hashed to identify a contract. -/
structure ContractPreimage where
  network : Hash
  preimage : ContractIdPreimage

def ContractPreimage.layout : Codec ContractPreimage :=
  single 8 <| Layout.make ContractPreimage.mk
    |>.field (fixed 32) (·.network)
    |>.field ContractIdPreimage.layout (·.preimage)

/-- The bytes whose hash identifies the built-in contract of an asset. -/
def Asset.contractPreimage (network : NetworkId) (asset : Asset) : Octets :=
  ContractPreimage.layout.encode ⟨network.hash, .asset asset⟩

/-- The identifier of the built-in contract of an asset. -/
def Asset.contractId (network : NetworkId) (asset : Asset) : ContractId :=
  ⟨Sha256.hash (asset.contractPreimage network)⟩

/-- The bytes whose hash is signed. -/
def Envelope.signedBytes (network : NetworkId) (envelope : Envelope) : Octets :=
  SignaturePayload.layout.encode ⟨network.hash, envelope.tagged⟩

/-- The hash of a transaction. -/
def Envelope.hash (network : NetworkId) (envelope : Envelope) : Hash :=
  Sha256.hash (envelope.signedBytes network)

end Protocol

end LedgerExport
