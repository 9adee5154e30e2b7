import LedgerExport.Protocol.Event
import LedgerExport.Text.Utf8

/-!
# Which events speak of assets

An event of a contract that has more than two topics, the first of them one of
four symbols, says that an amount of an asset moved. What else an event lacks is
named by the first thing that is missing.
-/

namespace LedgerExport.AssetEvent

open Protocol (ContractEvent)

/-- The ways in which an amount may move. -/
inductive Kind
  | transfer
  | mint
  | clawback
  | burn
deriving DecidableEq

namespace Kind

/-- All kinds. -/
def members : List Kind := [transfer, mint, clawback, burn]

/-- The symbol of a kind. -/
def name : Kind → String
  | transfer => "transfer"
  | mint => "mint"
  | clawback => "clawback"
  | burn => "burn"

/-- The kind of a symbol. -/
def ofName? (name : String) : Option Kind :=
  members.find? (·.name = name)

/-- The number of topics of an event: the symbol, the parties and the asset. -/
def topicCount : Kind → Nat
  | burn => 3
  | _ => 4

end Kind

/-- Why an event cannot speak of an asset. -/
inductive Rejection
  | notContractType
  | missingContractId
  | tooFewTopics (topics : Nat)
  | firstTopicNotSymbol
deriving DecidableEq

/-- What an event is by its outward shape. -/
inductive Classification
  | recognized (kind : Kind)
  | notRecognized (symbol : String)
  | notCandidate (rejection : Rejection)
deriving DecidableEq

/-- Classifies an event by its type, its contract, its topics and the first of them. -/
def classify (event : ContractEvent) : Classification :=
  if event.type ≠ .contract then .notCandidate .notContractType
  else if event.contract.isNone then .notCandidate .missingContractId
  else if event.topics.length ≤ 2 then .notCandidate (.tooFewTopics event.topics.length)
  else
    match event.topics.head? with
    | some (.symbol bytes) =>
      match Kind.ofName? (Utf8.lossy bytes) with
      | some kind => .recognized kind
      | none => .notRecognized (Utf8.lossy bytes)
    | _ => .notCandidate .firstTopicNotSymbol

end LedgerExport.AssetEvent
