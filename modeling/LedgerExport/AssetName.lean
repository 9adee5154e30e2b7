import LedgerExport.Protocol.Asset
import LedgerExport.StrKey
import LedgerExport.Text.Utf8

/-!
# Names of assets

The native asset is named `native`, and any other by its code and its issuer
with a colon between them. A code is kept in four or twelve bytes and ends
before the first zero.
-/

namespace LedgerExport.Protocol

/-- The bytes of a code in front of the first zero. -/
def codeBytes (code : Octets) : Octets :=
  code.takeWhile (· != 0)

/-- The text of a code. -/
def codeText (code : Octets) : String :=
  Utf8.lossy (codeBytes code)

def AssetCode.text : AssetCode → String
  | .alphanum4 code => codeText code.bytes
  | .alphanum12 code => codeText code.bytes

/-- A byte string filled up with zeros. -/
def filled (n : Nat) (bytes : Octets) : Option (FixedBytes n) :=
  FixedBytes.ofList? n (bytes ++ List.replicate (n - bytes.length) 0)

namespace Asset

/-- The name of the native asset. -/
def nativeName : String := "native"

/-- The asset of a code and an issuer, in the shorter form that holds the code. -/
def ofCode? (code : Octets) (issuer : AccountId) : Option Asset :=
  if code.length = 0 then none
  else if code.length ≤ 4 then (filled 4 code).map (alphanum4 · issuer)
  else (filled 12 code).map (alphanum12 · issuer)

/-- Reads the name of an asset; the shape is checked first, then the issuer, then the code. -/
def parse (name : String) : Except Error Asset :=
  if name = nativeName then .ok native
  else
    match name.toList.dropWhile (· != ':') with
    | [] => .error (.assetShape name)
    | _ :: issuerText =>
      match AccountId.parse (String.ofList issuerText) with
      | .error error => .error error
      | .ok issuer =>
        let code := name.toList.takeWhile (· != ':')
        let bytes := Utf8.encode code
        match ofCode? bytes issuer with
        | some asset => .ok asset
        | none => .error (.assetCodeLength (String.ofList code) bytes.length)

end Asset

end LedgerExport.Protocol
