import LedgerExport.Bytes.Hex
import LedgerExport.Protocol.Operation
import LedgerExport.Text.Decimal
import LedgerExport.Text.Quoted

/-!
# Errors

Every way in which reading or exporting may fail, as a cause with its facts.
The wording of all of them is in `Error.message`.
-/

namespace LedgerExport

/-- Why a line is not the text of a value. -/
inductive LineFault
  | xdr (fault : Xdr.Fault)
  | base64
deriving DecidableEq

/-- The text shown for a line. -/
def LineFault.message : LineFault → String
  | .xdr fault => fault.message
  | .base64 => "base64"

/-- Why something failed. -/
inductive Error
  | unknownUpgrade (discriminant : Int)
  | resultMismatch (operation result : Protocol.OperationKind)
  | xdr (fault : Xdr.Fault)
  | shortFrame
  | lineNotUtf8
  | unreadable (reason : String)
  | assetShape (text : String)
  | accountId (text : String)
  | assetCodeLength (code : String) (length : Nat)
  | ledgerRange (ledger : Nat)
  | transactionRange (order : Nat)
  | operationRange (order : Nat)
  | negativeToid (raw : Int)
  | eventId (text : String)
  | frameHeader (frames : Nat)
  | frameSize (size : Nat)
  | line (number : Nat) (fault : LineFault)
  | resultCount (results operations : Nat)
  | envelopeMissing (hash : Hash) (ledger : Nat)
deriving DecidableEq

namespace Error

/-- The kinds of failure that a caller may want to tell apart. -/
inductive Category
  | unknownVariant
  | xdr
  | io
  | invalidData
  | notFound
deriving DecidableEq

/-- The category of an error. -/
def category : Error → Category
  | .unknownUpgrade _ => .unknownVariant
  | .resultMismatch _ _ => .unknownVariant
  | .xdr _ => .xdr
  | .shortFrame => .io
  | .lineNotUtf8 => .io
  | .unreadable _ => .io
  | .envelopeMissing _ _ => .notFound
  | _ => .invalidData

/-- The union that has no such variant, and the discriminant that was met. -/
def variant? : Error → Option (String × Int)
  | .unknownUpgrade discriminant => some ("LedgerUpgrade", discriminant)
  | .resultMismatch operation result =>
    some ("OperationResult for " ++ operation.name, result.code)
  | _ => none

/-- What is wrong, without the category in front. -/
def detail : Error → String
  | .unknownUpgrade discriminant =>
    "LedgerUpgrade: discriminant " ++ Decimal.int discriminant
  | .resultMismatch operation result =>
    "OperationResult for " ++ operation.name ++ ": discriminant " ++ Decimal.nat result.code
  | .xdr fault => fault.message
  | .shortFrame => "failed to fill whole buffer"
  | .lineNotUtf8 => "stream did not contain valid UTF-8"
  | .unreadable reason => reason
  | .assetShape text => "asset " ++ Quoted.text text ++ " is not CODE:ISSUER"
  | .accountId text => "invalid account id " ++ text ++ ": the strkey is invalid"
  | .assetCodeLength code length =>
    "asset code " ++ Quoted.text code ++ " has invalid length " ++ Decimal.nat length
  | .ledgerRange ledger => "ledger sequence " ++ Decimal.nat ledger ++ " does not fit a TOID"
  | .transactionRange order => "transaction order " ++ Decimal.nat order ++ " exceeds 1048575"
  | .operationRange order => "operation order " ++ Decimal.nat order ++ " exceeds 4095"
  | .negativeToid raw => "negative TOID " ++ Decimal.int raw
  | .eventId text => "malformed event id " ++ Quoted.text text
  | .frameHeader frames => "truncated frame header after " ++ Decimal.nat frames ++ " frames"
  | .frameSize size => "frame of " ++ Decimal.nat size ++ " bytes exceeds limit of 268435456"
  | .line number fault => "line " ++ Decimal.nat number ++ ": " ++ fault.message
  | .resultCount results operations =>
    Decimal.nat results ++ " operation results for " ++ Decimal.nat operations ++ " operations"
  | .envelopeMissing hash ledger =>
    "envelope for transaction " ++ Hex.text hash.bytes ++ " in ledger " ++ Decimal.nat ledger

/-- The words in front of the errors of a category. -/
def Category.heading : Category → String
  | .unknownVariant => "unknown variant of "
  | .xdr => "XDR error: "
  | .io => "I/O error: "
  | .invalidData => "Invalid data: "
  | .notFound => "Not found: "

/-- The text shown for an error. -/
def message (error : Error) : String :=
  error.category.heading ++ error.detail

/-- The message, and the messages of the faults under it, outermost first. -/
def causes (error : Error) : List String :=
  error.message ::
    match error.category with
    | .xdr =>
      if error = .xdr .endOfInput then [error.detail, error.detail] else [error.detail]
    | .io => [error.detail]
    | _ => []

end Error

end LedgerExport
