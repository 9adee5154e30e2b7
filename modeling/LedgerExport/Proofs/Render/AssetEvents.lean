import LedgerExport.Proofs.Render.EventSources

/-!
# Asset events against the events beside them

What an event says about an asset is read from its raw topics and data, by code
that looks for symbols, addresses and amounts. The same topics and data are
shown as contract values, by code that knows nothing of assets. A reader of the
record finds both, and they never contradict each other.

## Implementation notes

`Describes` has one case for each kind. They are brought to one form first: a
symbol, the addresses of the parties, and one more topic.
-/

namespace LedgerExport

/-! ## What agreement is -/

namespace Record

/-- The text of an address. -/
def ScAddress.text : ScAddress → String
  | .account text => text
  | .contract text => text
  | .muxedAccount text => text
  | .claimableBalance text => text
  | .liquidityPool text => text

/-- Who takes part in a move, in the order of the topics. -/
def AssetMove.parties : AssetMove → List String
  | .transfer source target _ => [source, target]
  | .mint admin target _ => [admin, target]
  | .clawback admin source _ => [admin, source]
  | .burn source _ => [source]

/-- An event shows what a payload says: a contract event with an identifier and a contract, whose
topics are the name of the move, an address for each party and, if the payload names an asset, that
name, and whose data is the amount. -/
structure ContractEvent.AgreesWith (event : ContractEvent) (payload : AssetEvent) : Prop where
  id : event.id.isSome = true
  contract : event.contract.isSome = true
  type : event.type = .contract
  topics : ∃ (addresses : List ScAddress) (last : ScVal),
    event.topics = .symbol payload.move.name :: (addresses.map .address ++ [last]) ∧
      addresses.map (·.text) = payload.move.parties ∧
      ∀ name, payload.asset = some name → last = .string name
  data : event.data = .i128 payload.move.amount

end Record

/-! ## One form for all kinds -/

theorem Protocol.ScAddress.text_render (address : ScAddress) :
    address.render.text = address.text := by
  cases address with
  | account id => rfl
  | contract id => rfl
  | muxedAccount key => rfl
  | claimableBalance id => rfl
  | liquidityPool id => rfl

namespace AssetEvent

open Protocol (ContractEvent EventType ScVal ScAddress)

/-- Every kind of event has a first topic, an address for each party, and one more topic. -/
theorem Describes.exists_addresses {kind : Kind} {topics : List ScVal} {data : ScVal}
    {move : Record.AssetMove} (h : Describes kind topics data move) :
    ∃ (name : ScVal) (addresses : List ScAddress) (last : ScVal),
      topics = name :: (addresses.map .address ++ [last]) ∧
        addresses.map (·.text) = move.parties ∧ data = .i128 move.amount ∧
        move.name = kind.name := by
  cases h with
  | @transfer name asset source target amount =>
      exact ⟨name, [source, target], asset, rfl, rfl, rfl, rfl⟩
  | @mint name asset admin target amount =>
      exact ⟨name, [admin, target], asset, rfl, rfl, rfl, rfl⟩
  | @clawback name asset admin source amount =>
      exact ⟨name, [admin, source], asset, rfl, rfl, rfl, rfl⟩
  | @burn name asset source amount =>
      exact ⟨name, [source], asset, rfl, rfl, rfl, rfl⟩

/-- An event of a kind shows what it reports. -/
theorem agreesWith_renderWith {network : Option NetworkId} {kind : Kind} {event : ContractEvent}
    {payload : Record.AssetEvent} (htype : event.type = .contract) (hnames : Names event kind)
    (hreports : Reports network kind event payload) (id : EventId) :
    (event.renderWith (some id) (some payload)).AgreesWith payload := by
  obtain ⟨name, addresses, last, htopics, hparties, hdata, hname⟩ :=
    hreports.move.exists_addresses
  have hsymbol : name = .symbol kind.symbol := by
    have h := hnames.symbol
    rw [htopics] at h
    exact Option.some.inj h
  constructor
  · rfl
  · exact (Option.isSome_map).trans hnames.contract
  · rw [ContractEvent.renderWith, htype, EventType.render]
  · refine ⟨addresses.map (·.render), last.render, ?_, ?_, ?_⟩
    · simp only [ContractEvent.renderWith, htopics, hsymbol, hname, List.map_cons, List.map_append,
        List.map_map, List.map_nil, ScVal.render, Kind.lossy_symbol]
      rfl
    · rw [List.map_map, ← hparties]
      exact List.map_congr_left fun address _ => address.text_render
    · intro text htext
      obtain ⟨content, asset, hlast, hcontent, -⟩ := (hreports.asset text).mp htext
      rw [htopics, ← List.cons_append, List.getLast?_concat] at hlast
      rw [Option.some.inj hlast, ScVal.render, Utf8.lossy_of_string? hcontent]
  · rw [ContractEvent.renderWith, hdata, ScVal.render]

end AssetEvent

/-! ## Records -/

/-- No asset event in the record of a ledger contradicts the event that it stands beside. -/
theorem asset_events_agree_with_events {options : ExportOptions} {closing : LedgerClosing}
    {record : Record.LedgerRecord} (h : closing.render options = .ok record) :
    ∀ event ∈ record.allEvents, ∀ payload, event.assetEvent = some payload →
      event.AgreesWith payload := by
  intro event hevent payload hpayload
  obtain ⟨transaction, htransaction, hevent⟩ := List.mem_flatMap.mp hevent
  obtain ⟨applied, order, hrender⟩ := LedgerClosing.exists_of_mem_transactions h htransaction
  rcases TransactionClosing.unmarked_or_of_mem_allEvents hrender hevent with
    hunmarked | ⟨-, source, id, assetEvent, hverdict, rfl⟩
  · rw [hunmarked.assetEvent] at hpayload
    cases hpayload
  · obtain rfl : assetEvent = some payload := hpayload
    obtain ⟨kind, htype, hnames, hreports⟩ := Harvest.exists_reports_of_verdict hverdict
    exact AssetEvent.agreesWith_renderWith htype hnames hreports id

/-- A transfer of the native asset from an account to a contract. -/
theorem transfer_agrees_with_its_event :
    let options := ExportOptions.ofNetwork .testnet
    let transfer : Protocol.ContractEvent := ⟨some ⟨.zero 32⟩, .contract,
      [.symbol (Utf8.bytes "transfer"), .address (.account ⟨.zero 32⟩),
        .address (.contract ⟨.zero 32⟩), .string (Utf8.bytes "native")], .i128 ⟨0, 1⟩⟩
    let envelope : Protocol.Envelope :=
      .v1 ⟨⟨.plain (.zero 32), 1, 1, .none, .none, [⟨none, .inflation⟩], none⟩, []⟩
    let result : Protocol.ResultPair :=
      ⟨.zero 32, ⟨0, .plain (.success [.inner (.inflation (.success []))])⟩⟩
    let applied : Protocol.TransactionMeta := .v4 ⟨[], [⟨[], [transfer]⟩], [], none, [], []⟩
    let header : Protocol.HeaderEntry := ⟨.zero 32, ⟨0, .zero 32,
      ⟨.zero 32, 0, [], none⟩, .zero 32, .zero 32, 7, 0, 0, 0, 0, 0, 0, 0, .zero 128, none⟩⟩
    let closing : LedgerClosing := ⟨header, [⟨envelope, result, [], none, applied⟩]⟩
    ∃ record, closing.render options = .ok record ∧
      ∃ event ∈ record.allEvents, ∃ payload, event.assetEvent = some payload ∧
        event.AgreesWith payload ∧ payload.move.name = "transfer" ∧
        payload.asset = some "native" := by
  intro options transfer envelope result applied header closing
  let shown (payload : Record.AssetEvent) := (payload.move.name, payload.asset)
  have hshown : (closing.render options).toOption.map (fun record =>
      (record.allEvents.filterMap (·.assetEvent)).map shown) =
        some [("transfer", some "native")] := by
    decide +kernel
  obtain ⟨record, hrecord, hshown⟩ := Option.map_eq_some_iff.mp hshown
  rw [toOption_eq_some_iff] at hrecord
  have hmem : ("transfer", some "native") ∈
      (record.allEvents.filterMap (·.assetEvent)).map shown := by
    rw [hshown]
    exact List.mem_singleton_self _
  obtain ⟨payload, hpayload, hpair⟩ := List.mem_map.mp hmem
  obtain ⟨hname, hasset⟩ := Prod.mk.inj hpair
  obtain ⟨event, hevent, hpayload⟩ := List.mem_filterMap.mp hpayload
  exact ⟨record, hrecord, event, hevent, payload, hpayload,
    asset_events_agree_with_events hrecord event hevent payload hpayload, hname, hasset⟩

end LedgerExport
