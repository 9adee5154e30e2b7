/-!
# Result codes

Every operation that was carried out either succeeded, with code 0, or failed
with one of the failures of its kind. A failure has a number, which is written
negated, and a name.

## Implementation notes

The failures of a kind are a table, and a failure is a place in it.
-/

namespace LedgerExport.Protocol

/-- Numbered names of failures. -/
abbrev FailureTable := List (Nat × String)

/-- One failure of a table. -/
structure Failure (table : FailureTable) where
  index : Fin table.length
deriving DecidableEq

namespace Failure

variable {table : FailureTable}

/-- The number of a failure. -/
def number (failure : Failure table) : Nat :=
  (table.get failure.index).1

/-- The name of a failure. -/
def name (failure : Failure table) : String :=
  (table.get failure.index).2

/-- The first failure of a number. -/
def find? (table : FailureTable) (number : Nat) : Option (Failure table) :=
  (table.findFinIdx? fun entry => entry.1 == number).map fun index => ⟨index⟩

end Failure

namespace FailureTable

def createAccount : FailureTable :=
  [(1, "Malformed"), (2, "Underfunded"), (3, "LowReserve"), (4, "AlreadyExist")]

def payment : FailureTable :=
  [(1, "Malformed"), (2, "Underfunded"), (3, "SrcNoTrust"), (4, "SrcNotAuthorized"),
   (5, "NoDestination"), (6, "NoTrust"), (7, "NotAuthorized"), (8, "LineFull"), (9, "NoIssuer")]

def pathPaymentStrictReceive : FailureTable :=
  [(1, "Malformed"), (2, "Underfunded"), (3, "SrcNoTrust"), (4, "SrcNotAuthorized"),
   (5, "NoDestination"), (6, "NoTrust"), (7, "NotAuthorized"), (8, "LineFull"),
   (10, "TooFewOffers"), (11, "OfferCrossSelf"), (12, "OverSendmax")]

def manageOffer : FailureTable :=
  [(1, "Malformed"), (2, "SellNoTrust"), (3, "BuyNoTrust"), (4, "SellNotAuthorized"),
   (5, "BuyNotAuthorized"), (6, "LineFull"), (7, "Underfunded"), (8, "CrossSelf"),
   (9, "SellNoIssuer"), (10, "BuyNoIssuer"), (11, "NotFound"), (12, "LowReserve")]

def setOptions : FailureTable :=
  [(1, "LowReserve"), (2, "TooManySigners"), (3, "BadFlags"), (4, "InvalidInflation"),
   (5, "CantChange"), (6, "UnknownFlag"), (7, "ThresholdOutOfRange"), (8, "BadSigner"),
   (9, "InvalidHomeDomain"), (10, "AuthRevocableRequired")]

def changeTrust : FailureTable :=
  [(1, "Malformed"), (2, "NoIssuer"), (3, "InvalidLimit"), (4, "LowReserve"),
   (5, "SelfNotAllowed"), (6, "TrustLineMissing"), (7, "CannotDelete"),
   (8, "NotAuthMaintainLiabilities")]

def allowTrust : FailureTable :=
  [(1, "Malformed"), (2, "NoTrustLine"), (3, "TrustNotRequired"), (4, "CantRevoke"),
   (5, "SelfNotAllowed"), (6, "LowReserve")]

def accountMerge : FailureTable :=
  [(1, "Malformed"), (2, "NoAccount"), (3, "ImmutableSet"), (4, "HasSubEntries"),
   (5, "SeqnumTooFar"), (6, "DestFull"), (7, "IsSponsor")]

def inflation : FailureTable :=
  [(1, "NotTime")]

def manageData : FailureTable :=
  [(1, "NotSupportedYet"), (2, "NameNotFound"), (3, "LowReserve"), (4, "InvalidName")]

def bumpSequence : FailureTable :=
  [(1, "BadSeq")]

def pathPaymentStrictSend : FailureTable :=
  [(1, "Malformed"), (2, "Underfunded"), (3, "SrcNoTrust"), (4, "SrcNotAuthorized"),
   (5, "NoDestination"), (6, "NoTrust"), (7, "NotAuthorized"), (8, "LineFull"),
   (10, "TooFewOffers"), (11, "OfferCrossSelf"), (12, "UnderDestmin")]

def createClaimableBalance : FailureTable :=
  [(1, "Malformed"), (2, "LowReserve"), (3, "NoTrust"), (4, "NotAuthorized"), (5, "Underfunded")]

def claimClaimableBalance : FailureTable :=
  [(1, "DoesNotExist"), (2, "CannotClaim"), (3, "LineFull"), (4, "NoTrust"),
   (5, "NotAuthorized")]

def beginSponsoring : FailureTable :=
  [(1, "Malformed"), (2, "AlreadySponsored"), (3, "Recursive")]

def endSponsoring : FailureTable :=
  [(1, "NotSponsored")]

def revokeSponsorship : FailureTable :=
  [(1, "DoesNotExist"), (2, "NotSponsor"), (3, "LowReserve"), (4, "OnlyTransferable"),
   (5, "Malformed")]

def clawback : FailureTable :=
  [(1, "Malformed"), (2, "NotClawbackEnabled"), (3, "NoTrust"), (4, "Underfunded")]

def clawbackClaimableBalance : FailureTable :=
  [(1, "DoesNotExist"), (2, "NotIssuer"), (3, "NotClawbackEnabled")]

def setTrustLineFlags : FailureTable :=
  [(1, "Malformed"), (2, "NoTrustLine"), (3, "CantRevoke"), (4, "InvalidState"),
   (5, "LowReserve")]

def poolDeposit : FailureTable :=
  [(1, "Malformed"), (2, "NoTrust"), (3, "NotAuthorized"), (4, "Underfunded"), (5, "LineFull"),
   (6, "BadPrice"), (7, "PoolFull")]

def poolWithdraw : FailureTable :=
  [(1, "Malformed"), (2, "NoTrust"), (3, "Underfunded"), (4, "LineFull"), (5, "UnderMinimum")]

def invokeHostFunction : FailureTable :=
  [(1, "Malformed"), (2, "Trapped"), (3, "ResourceLimitExceeded"), (4, "EntryArchived"),
   (5, "InsufficientRefundableFee")]

def footprint : FailureTable :=
  [(1, "Malformed"), (2, "ResourceLimitExceeded"), (3, "InsufficientRefundableFee")]

/-- Why an operation was not carried out. -/
def operation : FailureTable :=
  [(1, "OpBadAuth"), (2, "OpNoAccount"), (3, "OpNotSupported"), (4, "OpTooManySubentries"),
   (5, "OpExceededWorkLimit"), (6, "OpTooManySponsoring")]

/-- Why a transaction was not carried out. -/
def transaction : FailureTable :=
  [(2, "TxTooEarly"), (3, "TxTooLate"), (4, "TxMissingOperation"), (5, "TxBadSeq"),
   (6, "TxBadAuth"), (7, "TxInsufficientBalance"), (8, "TxNoAccount"), (9, "TxInsufficientFee"),
   (10, "TxBadAuthExtra"), (11, "TxInternalError"), (12, "TxNotSupported"),
   (14, "TxBadSponsorship"), (15, "TxBadMinSeqAgeOrGap"), (16, "TxMalformed"),
   (17, "TxSorobanInvalid")]

end FailureTable

end LedgerExport.Protocol
