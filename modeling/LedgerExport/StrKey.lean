import LedgerExport.Digest.Crc16
import LedgerExport.Error
import LedgerExport.Protocol.Key
import LedgerExport.Text.Base32

/-!
# Texts of keys

A key is written as a letter for its kind and the base32 digits of the key and
its checksum. Pools and claimable balances are written as the hexadecimal digits
of their hash, so the two cannot be told apart by their text.

## Implementation notes

The letter is the first base32 digit of a version byte in front of the key.
-/

namespace LedgerExport

open Protocol

namespace StrKey

/-- The kinds of keys that have a letter. -/
inductive Kind
  | account
  | muxedAccount
  | contract
  | preAuthTx
  | hashX
  | signedPayload

/-- The byte in front of a key. -/
def Kind.version : Kind → UInt8
  | .account => 8 * 6
  | .muxedAccount => 8 * 12
  | .contract => 8 * 2
  | .preAuthTx => 8 * 19
  | .hashX => 8 * 23
  | .signedPayload => 8 * 15

/-- The version, the key and the checksum of both. -/
def withChecksum (kind : Kind) (key : Octets) : Octets :=
  let body := kind.version :: key
  body ++ Crc16.littleEndian body

/-- The text of a key. -/
def encode (kind : Kind) (key : Octets) : String :=
  String.ofList (Base32.encode (withChecksum kind key))

/-- The key of a text, if the text is one of this kind. -/
def decode? (kind : Kind) (text : List Char) : Option Octets := do
  let bytes ← Base32.decode? text
  let key := (bytes.drop 1).take (bytes.length - 3)
  if bytes = withChecksum kind key then some key else none

end StrKey

namespace Protocol

/-- The text of a public key. -/
def keyText (key : Ed25519) : String :=
  StrKey.encode .account key.bytes

def AccountId.text (id : AccountId) : String :=
  keyText id.key

/-- Reads the text of an account. -/
def AccountId.parse (text : String) : Except Error AccountId :=
  match StrKey.decode? .account text.toList >>= FixedBytes.ofList? 32 with
  | some key => .ok ⟨key⟩
  | none => .error (.accountId text)

def ContractId.text (id : ContractId) : String :=
  StrKey.encode .contract id.hash.bytes

def PoolId.text (id : PoolId) : String :=
  Hex.text id.hash.bytes

def BalanceId.text (id : BalanceId) : String :=
  Hex.text id.hash.bytes

/-- The key comes first, the number after it. -/
def MuxedKey.text (key : MuxedKey) : String :=
  StrKey.encode .muxedAccount (key.key.bytes ++ BigEndian.write 8 key.id.toNat [])

def MuxedAccount.text : MuxedAccount → String
  | .plain key => keyText key
  | .muxed key => key.text

def SignerKey.text : SignerKey → String
  | .ed25519 key => keyText key
  | .preAuthTx hash => StrKey.encode .preAuthTx hash.bytes
  | .hashX hash => StrKey.encode .hashX hash.bytes
  | .signedPayload signer => StrKey.encode .signedPayload (SignedPayload.layout.encode signer)

def ScAddress.text : ScAddress → String
  | .account id => id.text
  | .contract id => id.text
  | .muxedAccount key => key.text
  | .claimableBalance id => id.text
  | .liquidityPool id => id.text

end Protocol

end LedgerExport
