import LedgerExport.AssetEvent.Classification
import LedgerExport.Network
import LedgerExport.Record.Event
import LedgerExport.Render.Asset

/-!
# What events say about assets

The topics of a recognized event are its symbol, the parties and the name of the
asset; its data is the amount. The name counts only if it is the last topic and
the name of some asset, and the event comes from the asset's own contract only
if its contract is the one of that asset in the network.

## Implementation notes

Decoding looks at the number of topics, then at the data, then at the parties
in order, and reports the first fault.
-/

namespace LedgerExport.AssetEvent

open Protocol (ContractEvent ScVal Asset)
open Record (AssetMove)

/-- What is wrong with a recognized event. -/
inductive Fault
  | topicCount (expected found : Nat)
  | data (kindName : String)
  | topic (index : Nat) (kindName : String)
  | noTopic (index : Nat)
deriving DecidableEq

/-- The words for a fault. -/
def Fault.reason : Fault → String
  | .topicCount expected found =>
    "expected " ++ Decimal.nat expected ++ " topics, found " ++ Decimal.nat found
  | .data kindName => "data is " ++ kindName ++ " rather than i128"
  | .topic index kindName =>
    "topic " ++ Decimal.nat index ++ " is " ++ kindName ++ " rather than an address"
  | .noTopic index => "topic " ++ Decimal.nat index ++ " is missing"

/-- A recognized event that does not say what its kind has to say. -/
structure Malformed where
  kind : Kind
  fault : Fault
deriving DecidableEq

/-- The text shown for a malformed event. -/
def Malformed.message (malformed : Malformed) : String :=
  "malformed " ++ malformed.kind.name ++ " event: " ++ malformed.fault.reason

/-- The text of the address at a place among the topics. -/
def party (topics : List ScVal) (index : Nat) : Except Fault String :=
  match topics[index]? with
  | some (.address address) => .ok address.text
  | some other => .error (.topic index other.kindName)
  | none => .error (.noTopic index)

/-- The amount of an event. -/
def amount : ScVal → Except Fault Int128
  | .i128 amount => .ok amount
  | other => .error (.data other.kindName)

/-- The move that an event of a kind describes. -/
def readMove (kind : Kind) (event : ContractEvent) : Except Fault AssetMove :=
  if event.topics.length ≠ kind.topicCount then
    .error (.topicCount kind.topicCount event.topics.length)
  else do
    let amount ← amount event.data
    let first ← party event.topics 1
    match kind with
    | .transfer => return .transfer first (← party event.topics 2) amount
    | .mint => return .mint first (← party event.topics 2) amount
    | .clawback => return .clawback first (← party event.topics 2) amount
    | .burn => return .burn first amount

/-- The move that an event of a kind describes, or how the event is malformed. -/
def decodeMove (kind : Kind) (event : ContractEvent) : Except Malformed AssetMove :=
  (readMove kind event).mapError fun fault => ⟨kind, fault⟩

/-- The name of an asset and the asset, if the last topic is one. -/
def namedAsset? (event : ContractEvent) : Option (String × Asset) :=
  match event.topics.getLast? with
  | some (.string bytes) => do
    let name ← Utf8.string? bytes
    let asset ← (Asset.parse name).toOption
    return (name, asset)
  | _ => none

/-- Whether an event comes from the contract of the asset that it names. -/
def fromAssetContract (network : Option NetworkId) (event : ContractEvent) : Bool :=
  match network, namedAsset? event, event.contract with
  | some network, some (_, asset), some contract => asset.contractId network == contract
  | _, _, _ => false

/-- All that an event of a kind says about an asset. -/
def decode (kind : Kind) (event : ContractEvent) (network : Option NetworkId) :
    Except Malformed Record.AssetEvent := do
  let move ← decodeMove kind event
  return ⟨move, (namedAsset? event).map (·.1), fromAssetContract network event⟩

end LedgerExport.AssetEvent
