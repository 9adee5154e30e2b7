import LedgerExport.Proofs.Export.EventLines
import LedgerExport.Proofs.Stream.Holding

/-!
# The ledgers that a run shows

A run writes one document for each ledger of the longest beginning of a stream
in which all ledgers can be shown. What it writes for a ledger depends on that
ledger alone, and nothing is written for the one that fails or for a later one.

## Implementation notes

A stream is taken as the ledgers that it holds and what stands behind them. A
frame above the limit stands behind the ledgers, as bytes that do not decode.
-/

namespace LedgerExport

open Protocol (LedgerClose)
open LedgerExport.Stream (Holds ReadBack)
open LedgerExport.Stream.Reader (Stops)

variable {options : ExportOptions}

/-- The ledger can be assembled and converted, and becomes this record by itself. -/
def Shows (options : ExportOptions) (close : LedgerClose) (record : Record.LedgerRecord) : Prop :=
  ∃ closing, LedgerClosing.ofReport options.network close = .ok closing ∧
    closing.render options = .ok record

namespace Totals

/-- What the documents of some ledgers add up to. -/
def ofDocuments (documents : List Json) : Totals where
  ledgers := documents.length
  transactions := (documents.flatMap fun document => (document.get "transactions").items).length
  events := (documents.flatMap Json.identifiedEvents).length

/-- Totals on top of others. -/
def plus (totals more : Totals) : Totals where
  ledgers := totals.ledgers + more.ledgers
  transactions := totals.transactions + more.transactions
  events := totals.events + more.events

theorem zero_plus (totals : Totals) : zero.plus totals = totals := by
  simp only [plus, zero, Nat.zero_add]

/-- What is counted for a ledger is what its document adds. -/
theorem add_plus (totals : Totals) (record : Record.LedgerRecord) (documents : List Json) :
    (totals.add .ledgers record).plus (ofDocuments documents) =
      totals.plus (ofDocuments (Record.LedgerRecord.form.write record :: documents)) := by
  have hledgers : totals.ledgers + 1 + documents.length =
      totals.ledgers + (documents.length + 1) := by omega
  simp only [plus, add, ofDocuments, List.flatMap_cons, List.length_append, List.length_cons,
    Record.LedgerRecord.items_transactions, Record.LedgerRecord.identifiedEvents_write,
    List.length_map, Nat.add_assoc, hledgers, View.count, Record.LedgerRecord.length_eventLines]

end Totals

namespace Run

/-- How a run ends that shows as many ledgers of a stream, the first of which has a number
there: at the end of the stream, at what stands behind the ledgers, or at the next ledger. -/
inductive Ends (options : ExportOptions) (number : Nat) (closes : List LedgerClose) (shown : Nat)
    (totals : Totals) : Option Error → Except Failure Totals → Prop
  | finished (all : shown = closes.length) :
      Ends options number closes shown totals none (.ok totals)
  | unread (error : Error) (all : shown = closes.length) :
      Ends options number closes shown totals (some error)
        (.error ⟨.reading (number + shown), error⟩)
  | unassembled {ending : Option Error} {close : LedgerClose} {error : Error}
      (next : closes[shown]? = some close)
      (fault : LedgerClosing.ofReport options.network close = .error error) :
      Ends options number closes shown totals ending
        (.error ⟨.assembling (number + shown), error⟩)
  | unconverted {ending : Option Error} {close : LedgerClose} {closing : LedgerClosing}
      {error : Error} (next : closes[shown]? = some close)
      (assembled : LedgerClosing.ofReport options.network close = .ok closing)
      (fault : closing.render options = .error error) :
      Ends options number closes shown totals ending
        (.error ⟨.converting (LedgerClosing.headerOf close).header.ledgerSeq, error⟩)

variable {number shown : Nat} {closes : List LedgerClose} {totals : Totals}
  {ending : Option Error} {outcome : Except Failure Totals}

/-- One more ledger in front, which is shown. -/
theorem Ends.cons (h : Ends options (number + 1) closes shown totals ending outcome)
    (close : LedgerClose) :
    Ends options number (close :: closes) (shown + 1) totals ending outcome := by
  have hnumber : number + 1 + shown = number + (shown + 1) := by omega
  cases h with
  | finished all => exact .finished (congrArg (· + 1) all)
  | unread error all =>
      rw [hnumber]
      exact .unread error (congrArg (· + 1) all)
  | unassembled next fault =>
      rw [hnumber]
      exact .unassembled next fault
  | unconverted next assembled fault => exact .unconverted next assembled fault

/-- A run succeeds exactly if it shows all ledgers and nothing stands behind them. -/
theorem Ends.exists_ok_iff (h : Ends options number closes shown totals ending outcome) :
    (∃ counted, outcome = .ok counted) ↔ shown = closes.length ∧ ending = none := by
  have hnext : ∀ {close : LedgerClose}, closes[shown]? = some close → shown ≠ closes.length := by
    intro close hclose hall
    rw [hall, List.getElem?_eq_none (Nat.le_refl _)] at hclose
    cases hclose
  cases h with
  | finished all => exact ⟨fun _ => ⟨all, rfl⟩, fun _ => ⟨totals, rfl⟩⟩
  | unread error all => simp
  | unassembled next fault => simp [hnext next]
  | unconverted next assembled fault => simp [hnext next]

/-- The ledger behind those that are shown cannot be shown. -/
theorem Ends.not_shows (h : Ends options number closes shown totals ending outcome)
    {close : LedgerClose} (hclose : closes[shown]? = some close)
    (record : Record.LedgerRecord) : ¬Shows options close record := by
  rintro ⟨closing, hassembled, hconverted⟩
  cases h with
  | finished all =>
      rw [all, List.getElem?_eq_none (Nat.le_refl _)] at hclose
      cases hclose
  | unread error all =>
      rw [all, List.getElem?_eq_none (Nat.le_refl _)] at hclose
      cases hclose
  | unassembled next fault =>
      rw [hclose] at next
      cases next
      rw [fault] at hassembled
      cases hassembled
  | unconverted next assembled fault =>
      rw [hclose] at next
      cases next
      rw [assembled] at hassembled
      cases hassembled
      rw [fault] at hconverted
      cases hconverted

/-! ## One ledger -/

/-- A ledger that does not come out of a stream ends the run there. -/
theorem ends_of_ledger_eq_error {close : LedgerClose} {failure : Failure}
    (h : ledger options number (.ok close) = .error failure) :
    Ends options number (close :: closes) 0 totals ending (.error failure) := by
  simp only [ledger] at h
  split at h
  · next error hassembled =>
      cases h
      exact .unassembled rfl hassembled
  · next closing hassembled =>
      split at h
      · next error hconverted =>
          cases h
          rw [LedgerClosing.sequence, (LedgerClosing.ofReport_eq_ok hassembled).1]
          exact .unconverted rfl hassembled hconverted
      · cases h

/-! ## All ledgers -/

/-- What comes out of a stream that holds ledgers, and what stands behind them. -/
def readsOf (closes : List LedgerClose) (ending : Option Error) :
    List (Except Error LedgerClose) :=
  closes.map .ok ++ ending.toList.map .error

/-- A run shows ledgers one after the other, up to the end or to the first that fails. -/
theorem exists_records_ofReads (options : ExportOptions) (number : Nat) (totals : Totals)
    (closes : List LedgerClose) (ending : Option Error) :
    let run := ofReads options .ledgers number totals (readsOf closes ending)
    ∃ records : List Record.LedgerRecord,
      List.Forall₂ (Shows options) (closes.take records.length) records ∧
      run.documents = records.map Record.LedgerRecord.form.write ∧
      Ends options number closes records.length (totals.plus (.ofDocuments run.documents)) ending
        run.outcome := by
  induction closes generalizing number totals with
  | nil =>
      cases ending with
      | none => exact ⟨[], .nil, rfl, .finished rfl⟩
      | some error => exact ⟨[], .nil, rfl, .unread error rfl⟩
  | cons close closes ih =>
      simp only [readsOf, List.map_cons, List.cons_append, ofReads]
      cases hledger : ledger options number (.ok close) with
      | error failure => exact ⟨[], .nil, rfl, ends_of_ledger_eq_error hledger⟩
      | ok record =>
          obtain ⟨records, hshown, hdocuments, hends⟩ :=
            ih (number + 1) (totals.add .ledgers record)
          obtain ⟨_, closing, ⟨⟩, hassembled, hconverted⟩ := ledger_eq_ok hledger
          refine ⟨record :: records, ?_, ?_, ?_⟩
          · exact .cons ⟨closing, hassembled, hconverted⟩ hshown
          · exact congrArg (Record.LedgerRecord.form.write record :: ·) hdocuments
          · rw [Totals.add_plus] at hends
            exact hends.cons close

/-- Runs over the same ledgers with an error behind them differ in the cause of that error at
most. -/
theorem alike_ofReads (options : ExportOptions) (view : View) (number : Nat) (totals : Totals)
    (closes : List LedgerClose) (error error' : Error) :
    let run := ofReads options view number totals (readsOf closes (some error))
    let run' := ofReads options view number totals (readsOf closes (some error'))
    run.documents = run'.documents ∧
      run.outcome.mapError (·.stage) = run'.outcome.mapError (·.stage) := by
  induction closes generalizing number totals with
  | nil => exact ⟨rfl, rfl⟩
  | cons close closes ih =>
      simp only [readsOf, List.map_cons, List.cons_append, ofReads]
      cases hledger : ledger options number (.ok close) with
      | error failure => exact ⟨rfl, rfl⟩
      | ok record =>
          obtain ⟨hdocuments, houtcome⟩ := ih (number + 1) (totals.add view record)
          exact ⟨congrArg (view.documents record ++ ·) hdocuments, houtcome⟩

/-- A run over a stream is the run over the ledgers that the stream holds. -/
theorem ofStream_of_holds (view : View) {format : Stream.Format} {closes : List LedgerClose}
    {bytes rest : Octets} {ending : Option Error}
    (hread : ∀ close ∈ closes, ReadBack LedgerClose.layout close)
    (hholds : Holds LedgerClose.layout format closes bytes rest)
    (hstops : Stops LedgerClose.layout format closes.length rest ending) :
    ofStream options view format bytes =
      ofReads options view 1 .zero (readsOf closes ending) := by
  have hvalues := Stream.Reader.values_of_holds hholds hread 0
  rw [Stream.Reader.resumed_zero, Nat.zero_add, Stream.Reader.values_of_stops hstops] at hvalues
  rw [ofStream, hvalues, readsOf]

/-- A run shows the longest beginning of some ledgers in which all can be shown, and ends at the
next one or, behind the last one, at the end or at an error that stands there. -/
structure ShowsLongestPrefix (options : ExportOptions) (closes : List LedgerClose)
    (ending : Option Error) (records : List Record.LedgerRecord) (run : Run) : Prop where
  shown : List.Forall₂ (Shows options) (closes.take records.length) records
  longest : ∀ close, closes[records.length]? = some close → ∀ record, ¬Shows options close record
  documents : run.documents = records.map Record.LedgerRecord.form.write
  text (style : Style) : run.text style = String.join
    (records.map fun record => style.text (Record.LedgerRecord.form.write record) ++ "\n")
  outcome : Ends options 1 closes records.length (.ofDocuments run.documents) ending run.outcome
  success : (∃ totals, run.outcome = .ok totals) ↔
    records.length = closes.length ∧ ending = none

end Run

theorem Protocol.LedgerClose.encode_ne_nil (close : LedgerClose) :
    LedgerClose.layout.encode close ≠ [] := by
  intro h
  have hlength := congrArg List.length h
  rw [Xdr.Layout.encode, layout, Xdr.union, BigEndian.length_write, List.length_nil] at hlength
  omega

/-- Over a stream of ledgers in either format, with or without bytes behind them that do not
decode, a run writes a document for each ledger of the longest beginning in which all can be
shown. The formats make no difference but for the cause of an error behind the ledgers. No bytes
behind them are the end, and a frame above the limit is an error. -/
theorem ledger_documents_of_longest_prefix (options : ExportOptions) (closes : List LedgerClose)
    (hdecode : ∀ close ∈ closes,
      LedgerClose.layout.decode (LedgerClose.layout.encode close) = .ok close) :
    (∀ (format : Stream.Format) (bytes rest : Octets) (ending : Option Error),
      Holds LedgerClose.layout format closes bytes rest →
        Stops LedgerClose.layout format closes.length rest ending →
          ∃ records, (Run.ofStream options .ledgers format bytes).ShowsLongestPrefix options closes
            ending records) ∧
    (∀ (frames lines rest rest' : Octets) (ending ending' : Option Error),
      Holds LedgerClose.layout .frames closes frames rest →
        Stops LedgerClose.layout .frames closes.length rest ending →
          Holds LedgerClose.layout .lines closes lines rest' →
            Stops LedgerClose.layout .lines closes.length rest' ending' →
              ending.isSome = ending'.isSome →
                let run := Run.ofStream options .ledgers .frames frames
                let run' := Run.ofStream options .ledgers .lines lines
                run.documents = run'.documents ∧
                  run.outcome.mapError (·.stage) = run'.outcome.mapError (·.stage) ∧
                  (ending = ending' → run = run')) ∧
    (∀ format, Stops LedgerClose.layout format closes.length [] none) ∧
    (∀ (header : FixedBytes 4) (payload : Octets), Frames.maxSize < Frames.sizeOf header →
      Stops LedgerClose.layout .frames closes.length (header.bytes ++ payload)
        (some (.frameSize (Frames.sizeOf header)))) := by
  have hread : ∀ close ∈ closes, ReadBack LedgerClose.layout close :=
    fun close hclose => ⟨hdecode close hclose, close.encode_ne_nil⟩
  refine ⟨?_, ?_, ?_, ?_⟩
  · intro format bytes rest ending hholds hstops
    rw [Run.ofStream_of_holds .ledgers hread hholds hstops]
    obtain ⟨records, hshown, hdocuments, hends⟩ :=
      Run.exists_records_ofReads options 1 .zero closes ending
    rw [Totals.zero_plus] at hends
    refine ⟨records, hshown, fun close hclose => hends.not_shows hclose, hdocuments, ?_, hends,
      hends.exists_ok_iff⟩
    intro style
    rw [Run.text, hdocuments, List.map_map]
    rfl
  · intro frames lines rest rest' ending ending' hframes hstops hlines hstops' hsome run run'
    have hrun : run = Run.ofReads options .ledgers 1 .zero (Run.readsOf closes ending) :=
      Run.ofStream_of_holds .ledgers hread hframes hstops
    have hrun' : run' = Run.ofReads options .ledgers 1 .zero (Run.readsOf closes ending') :=
      Run.ofStream_of_holds .ledgers hread hlines hstops'
    have hsame : ending = ending' → run = run' := by
      rintro rfl
      exact hrun.trans hrun'.symm
    have halike : run.documents = run'.documents ∧
        run.outcome.mapError (·.stage) = run'.outcome.mapError (·.stage) := by
      cases ending with
      | none =>
          obtain rfl : ending' = none := by simpa using hsome.symm
          rw [hsame rfl]
          exact ⟨rfl, rfl⟩
      | some error =>
          obtain ⟨error', rfl⟩ := Option.isSome_iff_exists.mp hsome.symm
          rw [hrun, hrun']
          exact Run.alike_ofReads options .ledgers 1 .zero closes error error'
    exact ⟨halike.1, halike.2, hsame⟩
  · intro format
    exact Stream.Reader.stops_nil LedgerClose.layout format closes.length
  · intro header payload hsize
    exact Stream.Reader.stops_oversized LedgerClose.layout closes.length hsize payload

/-- A ledger of a sequence number with one transaction, whose only operation emits one event. -/
def Protocol.LedgerClose.oneEvent (network : NetworkId) (sequence : UInt32) : LedgerClose :=
  let envelope : Envelope :=
    .v1 ⟨⟨.plain (.zero 32), 1, 1, .none, .none, [⟨none, .inflation⟩], none⟩, []⟩
  let result : ResultPair :=
    ⟨envelope.hash network, ⟨0, .plain (.success [.inner (.inflation (.success []))])⟩⟩
  let applied : TransactionMeta :=
    .v4 ⟨[], [⟨[], [⟨none, .contract, [], .void⟩]⟩], [], none, [], []⟩
  .v0 ⟨⟨.zero 32, ⟨0, .zero 32, ⟨.zero 32, 0, [], none⟩, .zero 32, .zero 32, sequence, 0, 0, 0, 0,
    0, 0, 0, .zero 128, none⟩⟩, ⟨.zero 32, [envelope]⟩, [⟨result, [], applied⟩], [], []⟩

set_option maxRecDepth 100000 in
/-- Two ledgers with an event each: in frames in front of a header above the limit, in lines in
front of one that is not text, and in frames with nothing behind them. -/
theorem documents_of_two_ledgers_in_both_formats :
    let options := ExportOptions.ofNetwork .testnet
    let close (sequence : UInt32) := LedgerClose.oneEvent .testnet sequence
    let closes := [close 7, close 8]
    let encoded (sequence : UInt32) := LedgerClose.layout.encode (close sequence)
    let first : Frames.Frame := ⟨true, encoded 7, by decide +kernel⟩
    let second : Frames.Frame := ⟨false, encoded 8, by decide +kernel⟩
    let oversized : FixedBytes 4 := ⟨[0x90, 0, 0, 1], rfl⟩
    let frames := first.bytes ++ (second.bytes ++ (oversized.bytes ++ []))
    let lines := Base64.encode (encoded 7) ++ Lines.lineFeed ::
      (Base64.encode (encoded 8) ++ Lines.lineFeed :: [0xff])
    let run := Run.ofStream options .ledgers .frames frames
    let run' := Run.ofStream options .ledgers .lines lines
    let complete := Run.ofStream options .ledgers .frames (first.bytes ++ (second.bytes ++ []))
    (∃ records, run.ShowsLongestPrefix options closes (some (.frameSize 268435457)) records) ∧
      (∃ records, run'.ShowsLongestPrefix options closes (some .lineNotUtf8) records) ∧
      (∃ records, complete.ShowsLongestPrefix options closes none records) ∧
      run.documents = run'.documents ∧ Totals.ofDocuments run.documents = ⟨2, 2, 2⟩ ∧
      run.outcome.mapError (·.stage) = .error (.reading 3) ∧ complete.outcome = .ok ⟨2, 2, 2⟩ := by
  intro options close closes encoded first second oversized frames lines run run' complete
  have hseven : LedgerClose.layout.decode (LedgerClose.layout.encode (.oneEvent .testnet 7)) =
    .ok (.oneEvent .testnet 7) := by rfl
  have height : LedgerClose.layout.decode (LedgerClose.layout.encode (.oneEvent .testnet 8)) =
    .ok (.oneEvent .testnet 8) := by rfl
  have hdecode : ∀ close ∈ closes,
      LedgerClose.layout.decode (LedgerClose.layout.encode close) = .ok close :=
    List.forall_mem_cons.mpr ⟨hseven, List.forall_mem_singleton.mpr height⟩
  have hframes : Holds LedgerClose.layout .frames closes frames (oversized.bytes ++ []) :=
    .frame first rfl (.frame second rfl (.rest .frames (oversized.bytes ++ [])))
  have hlines : Holds LedgerClose.layout .lines closes lines [0xff] :=
    .line (close 7) (.line (close 8) (.rest .lines [0xff]))
  have hcomplete : Holds LedgerClose.layout .frames closes
      (first.bytes ++ (second.bytes ++ [])) [] :=
    .frame first rfl (.frame second rfl (.rest .frames []))
  have hstops' : Stops LedgerClose.layout .lines closes.length [0xff] (some .lineNotUtf8) := rfl
  obtain ⟨hlongest, halike, hend, hoversized⟩ :=
    ledger_documents_of_longest_prefix options closes hdecode
  have hsize : Frames.sizeOf oversized = 268435457 := by decide
  have hstops := hoversized oversized [] (by decide)
  rw [hsize] at hstops
  obtain ⟨records, hrecords⟩ := hlongest .frames frames _ _ hframes hstops
  obtain ⟨hdocuments, -, -⟩ := halike frames lines _ _ _ _ hframes hstops hlines hstops' rfl
  have htotals : Totals.ofDocuments run.documents = ⟨2, 2, 2⟩ := by decide +kernel
  have hfailure : run.outcome.mapError (·.stage) = .error (.reading 3) := by decide +kernel
  have hsuccess : complete.outcome = .ok ⟨2, 2, 2⟩ := by decide +kernel
  exact ⟨⟨records, hrecords⟩, hlongest .lines lines _ _ hlines hstops',
    hlongest .frames _ _ _ hcomplete (hend .frames), hdocuments, htotals, hfailure, hsuccess⟩

end LedgerExport
