import LedgerExport.Position.EventId
import LedgerExport.Record.ScVal

/-!
# Events as records

An event with its identifier, if it has one, and with what it says about an
asset, if it says that in the standard way.
-/

namespace LedgerExport.Record

open Form

/-- A position is its number. -/
def Toid.form : Form Toid where
  write t := .int t.raw
  read
    | .int n =>
      if h : n.toNat < 0x8000000000000000 then
        if 0 ≤ n then some ⟨n.toNat, h⟩ else none
      else none
    | _ => none
  absent := none

/-- An identifier is its text. -/
def EventId.form : Form EventId :=
  spelled EventId.text fun s => (EventId.parse s).toOption

/-- What an event says about an asset: whose amount moved, and by whose order. -/
inductive AssetMove
  | transfer (source target : String) (amount : Int128)
  | mint (admin target : String) (amount : Int128)
  | clawback (admin source : String) (amount : Int128)
  | burn (source : String) (amount : Int128)

namespace AssetMove

/-- The amount of a move. -/
def amount : AssetMove → Int128
  | .transfer _ _ amount => amount
  | .mint _ _ amount => amount
  | .clawback _ _ amount => amount
  | .burn _ amount => amount

/-- The name of a move. -/
def name : AssetMove → String
  | .transfer .. => "transfer"
  | .mint .. => "mint"
  | .clawback .. => "clawback"
  | .burn .. => "burn"

/-- Two named parties and an amount. -/
def partyFields (first second : String) :
    Fields (String × String × Int128) (String × String × Int128) :=
  Fields.make (fun a b amount => (a, b, amount))
    |>.field first text (·.1)
    |>.field second text (·.2.1)
    |>.field "amount" Int128.form (·.2.2)

/-- One party and an amount. -/
def burnFields : Fields (String × Int128) (String × Int128) :=
  Fields.make Prod.mk |>.field "from" text (·.1) |>.field "amount" Int128.form (·.2)

def form : Form AssetMove :=
  tagged
    (fun
      | .transfer source target amount =>
        ⟨"transfer", named (partyFields "from" "to"), (source, target, amount)⟩
      | .mint admin target amount =>
        ⟨"mint", named (partyFields "admin" "to"), (admin, target, amount)⟩
      | .clawback admin source amount =>
        ⟨"clawback", named (partyFields "admin" "from"), (admin, source, amount)⟩
      | .burn source amount => ⟨"burn", named burnFields, (source, amount)⟩)
    (fun
      | "transfer" => (named (partyFields "from" "to")).into fun (a, b, c) => .transfer a b c
      | "mint" => (named (partyFields "admin" "to")).into fun (a, b, c) => .mint a b c
      | "clawback" => (named (partyFields "admin" "from")).into fun (a, b, c) => .clawback a b c
      | "burn" => (named burnFields).into fun (a, b) => .burn a b
      | _ => fun _ => none)

end AssetMove

/-- A move, the name of the asset if the event gives it, and whether its own contract says so. -/
structure AssetEvent where
  move : AssetMove
  asset : Option String
  assetContract : Bool

def AssetEvent.form : Form AssetEvent :=
  record <| Fields.make AssetEvent.mk
    |>.field "event" AssetMove.form (·.move)
    |>.field "asset" (option text) (·.asset)
    |>.field "stellar_asset_contract" bool (·.assetContract)

/-- Who an event is from: the host, a contract, or the host in search of faults. -/
inductive EventType
  | system
  | contract
  | diagnostic
deriving DecidableEq

/-- The printed name of a type of events. -/
def EventType.name : EventType → String
  | .system => "system"
  | .contract => "contract"
  | .diagnostic => "diagnostic"

def EventType.form : Form EventType :=
  enumeration [.system, .contract, .diagnostic] EventType.name

/-- An event. -/
structure ContractEvent where
  id : Option EventId
  contract : Option String
  type : EventType
  topics : List ScVal
  data : ScVal
  assetEvent : Option AssetEvent

namespace ContractEvent

/-- The fields of an event, which stand in a line of their own as well. -/
def fields : Fields ContractEvent ContractEvent :=
  Fields.make ContractEvent.mk
    |>.field "id" (option EventId.form) (·.id)
    |>.field "contract_id" (option text) (·.contract)
    |>.field "event_type" EventType.form (·.type)
    |>.field "topics" (list ScVal.form) (·.topics)
    |>.field "data" ScVal.form (·.data)
    |>.field "asset_event" (option AssetEvent.form) (·.assetEvent)

def form : Form ContractEvent :=
  record fields

end ContractEvent

/-- An event and whether the call that made it succeeded. -/
structure DiagnosticEvent where
  inSuccessfulContractCall : Bool
  event : ContractEvent

def DiagnosticEvent.form : Form DiagnosticEvent :=
  record <| Fields.make DiagnosticEvent.mk
    |>.field "in_successful_contract_call" bool (·.inSuccessfulContractCall)
    |>.field "event" ContractEvent.form (·.event)

/-- When an event of a transaction as a whole arose. -/
inductive EventStage
  | beforeAllTxs
  | afterTx
  | afterAllTxs
deriving DecidableEq

/-- The printed name of a stage. -/
def EventStage.name : EventStage → String
  | .beforeAllTxs => "before_all_txs"
  | .afterTx => "after_tx"
  | .afterAllTxs => "after_all_txs"

def EventStage.form : Form EventStage :=
  enumeration [.beforeAllTxs, .afterTx, .afterAllTxs] EventStage.name

/-- An event of a transaction as a whole. -/
structure TransactionEvent where
  stage : EventStage
  event : ContractEvent

def TransactionEvent.form : Form TransactionEvent :=
  record <| Fields.make TransactionEvent.mk
    |>.field "stage" EventStage.form (·.stage)
    |>.field "event" ContractEvent.form (·.event)

end LedgerExport.Record
