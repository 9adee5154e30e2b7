import LedgerExport.Json.Printer
import LedgerExport.Record.EventLine
import LedgerExport.Render.Ledger
import LedgerExport.Stream.Reader

/-!
# Exporting a stream of ledgers

Ledgers are read, assembled and converted one after the other, and what the view
shows of each is written before the next one is read. The first failure ends the
run; what was written before it stays.

## Implementation notes

A run is the list of documents that it writes and how it ends, so that the
documents of a failed run can be spoken of as well.
-/

namespace LedgerExport

/-- Where a run failed. -/
inductive Stage
  | reading (number : Nat)
  | assembling (number : Nat)
  | converting (ledger : UInt32)
deriving DecidableEq

/-- The text shown for a stage. -/
def Stage.message : Stage → String
  | .reading number => "Failed to read ledger #" ++ Decimal.nat number
  | .assembling number => "Failed to assemble ledger #" ++ Decimal.nat number
  | .converting ledger => "Failed to convert ledger " ++ Decimal.nat ledger.toNat

/-- Where and why a run failed. -/
structure Failure where
  stage : Stage
  error : Error
deriving DecidableEq

/-- What a run has counted. -/
structure Totals where
  ledgers : Nat
  transactions : Nat
  events : Nat
deriving DecidableEq

/-- Nothing was counted. -/
def Totals.zero : Totals := ⟨0, 0, 0⟩

/-- What is shown of each ledger: its record, or its events one by one. -/
inductive View
  | ledgers
  | events (assetOnly : Bool)
deriving DecidableEq

namespace View

/-- The lines that are shown of the events of a ledger. -/
def lines (assetOnly : Bool) (record : Record.LedgerRecord) : List Record.EventLine :=
  if assetOnly then record.eventLines.filter (·.event.assetEvent.isSome) else record.eventLines

/-- The documents that a view shows of a ledger. -/
def documents (view : View) (record : Record.LedgerRecord) : List Json :=
  match view with
  | .ledgers => [Record.LedgerRecord.form.write record]
  | .events assetOnly => (lines assetOnly record).map (·.document)

/-- How many events of a ledger a view counts: all that have an identifier, or the lines that it
shows. -/
def count (view : View) (record : Record.LedgerRecord) : Nat :=
  match view with
  | .ledgers => record.identifiedCount
  | .events assetOnly => (lines assetOnly record).length

/-- Ledgers are shown with the count of the lines of their events. -/
theorem count_ledgers : count .ledgers = count (.events false) :=
  funext fun record => record.length_eventLines.symm

end View

/-- The totals after one more ledger. -/
def Totals.add (view : View) (record : Record.LedgerRecord) (totals : Totals) : Totals where
  ledgers := totals.ledgers + 1
  transactions := totals.transactions + record.transactions.length
  events := totals.events + view.count record

/-- What a run writes and how it ends. -/
structure Run where
  documents : List Json
  outcome : Except Failure Totals

namespace Run

/-- A ledger as it comes out of a stream, at its number there, as a record. -/
def ledger (options : ExportOptions) (number : Nat) (read : Except Error Protocol.LedgerClose) :
    Except Failure Record.LedgerRecord :=
  match read with
  | .error error => .error ⟨.reading number, error⟩
  | .ok close =>
    match LedgerClosing.ofReport options.network close with
    | .error error => .error ⟨.assembling number, error⟩
    | .ok closing =>
      match closing.render options with
      | .error error => .error ⟨.converting closing.sequence, error⟩
      | .ok record => .ok record

/-- The run over what is left of a stream. -/
def ofReads (options : ExportOptions) (view : View) (number : Nat) (totals : Totals) :
    List (Except Error Protocol.LedgerClose) → Run
  | [] => ⟨[], .ok totals⟩
  | read :: more =>
    match ledger options number read with
    | .error failure => ⟨[], .error failure⟩
    | .ok record =>
      let run := ofReads options view (number + 1) (totals.add view record) more
      ⟨view.documents record ++ run.documents, run.outcome⟩

/-- The run over the ledgers of a stream. -/
def ofStream (options : ExportOptions) (view : View) (format : Stream.Format)
    (bytes : Octets) : Run :=
  ofReads options view 1 .zero
    ((Stream.Reader.start bytes format).values Protocol.LedgerClose.layout)

end Run

/-- How documents are laid out. -/
inductive Style
  | compact
  | pretty
deriving DecidableEq

/-- The text of a document. -/
def Style.text : Style → Json → String
  | .compact => Json.compact
  | .pretty => Json.pretty

/-- The text of a run: its documents, each with the end of a line behind it. -/
def Run.text (style : Style) (run : Run) : String :=
  String.join (run.documents.map fun document => style.text document ++ "\n")

end LedgerExport
