import LedgerExport.AssetName
import LedgerExport.Protocol.Asset
import LedgerExport.Record.Asset

/-!
# Assets as they are shown

Every key becomes its text and every code the text in front of its first zero;
prices, amounts and conditions of claims are shown as they are.
-/

namespace LedgerExport.Protocol

def SignerKey.render (key : SignerKey) : Record.SignerKey :=
  match key with
  | .ed25519 _ => .ed25519 key.text
  | .preAuthTx _ => .preAuthTx key.text
  | .hashX _ => .hashX key.text
  | .signedPayload signer => .signedPayload key.text (keyText signer.key) (Hex.text signer.payload)

def ScAddress.render (address : ScAddress) : Record.ScAddress :=
  match address with
  | .account _ => .account address.text
  | .contract _ => .contract address.text
  | .muxedAccount _ => .muxedAccount address.text
  | .claimableBalance _ => .claimableBalance address.text
  | .liquidityPool _ => .liquidityPool address.text

def Asset.render : Asset → Record.Asset
  | .native => .native
  | .alphanum4 code issuer => .alphanum4 (codeText code.bytes) issuer.text
  | .alphanum12 code issuer => .alphanum12 (codeText code.bytes) issuer.text

/-- The name of an asset as it is shown. -/
def Asset.name (asset : Asset) : String :=
  asset.render.canonical

def TrustLineAsset.render : TrustLineAsset → Record.TrustLineAsset
  | .asset a => .asset a.render
  | .poolShare pool => .poolShare pool.text

def PoolParameters.render (p : PoolParameters) : Record.PoolParameters where
  assetA := p.assetA.render
  assetB := p.assetB.render
  fee := p.fee

def ChangeTrustAsset.render : ChangeTrustAsset → Record.ChangeTrustAsset
  | .asset a => .asset a.render
  | .poolShare pool => .poolShare pool.render

def Price.render (p : Price) : Record.Price where
  n := p.n
  d := p.d

def Liabilities.render (p : Liabilities) : Record.Liabilities where
  buying := p.buying
  selling := p.selling

def Signer.render (p : Signer) : Record.Signer where
  key := p.key.render
  weight := p.weight

namespace ClaimPredicate

mutual

def render : ClaimPredicate → Record.ClaimPredicate
  | .unconditional => .unconditional
  | .and parts => .and (renderAll parts)
  | .or parts => .or (renderAll parts)
  | .not (some part) => .not (some (render part))
  | .not none => .not none
  | .beforeAbsoluteTime time => .beforeAbsoluteTime time
  | .beforeRelativeTime time => .beforeRelativeTime time

/-- Every predicate as it is shown. -/
def renderAll : List ClaimPredicate → List Record.ClaimPredicate
  | [] => []
  | part :: parts => render part :: renderAll parts

end

end ClaimPredicate

def Claimant.render (p : Claimant) : Record.Claimant where
  destination := p.destination.text
  predicate := p.predicate.render

end LedgerExport.Protocol
