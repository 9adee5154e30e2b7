import LedgerExport.Proofs.AssetEvent.Shape
import LedgerExport.Proofs.Harvest.Numbering
import Mathlib.Data.List.Forall2

/-!
# What becomes of an event

The outcome for an event follows from its type, its call, its contract, its
topics and its data. The statement names no function of the harvest: it says
when an event is passed over, when it is emitted as it is, and when it has to
describe a move.
-/

namespace LedgerExport

open AssetEvent (Kind Names Describes Reports)

/-- Events of contracts, from calls that succeeded, take part in a harvest. -/
structure SourceEvent.Candidate (source : SourceEvent) : Prop where
  contract : source.event.type = .contract
  successful : source.inSuccessfulCall = true

theorem SourceEvent.isCandidate_iff {source : SourceEvent} :
    source.isCandidate = true ↔ source.Candidate := by
  rw [isCandidate, Bool.and_eq_true, beq_iff_eq]
  constructor
  · rintro ⟨hsuccessful, hcontract⟩
    exact ⟨hcontract, hsuccessful⟩
  · rintro ⟨hcontract, hsuccessful⟩
    exact ⟨hsuccessful, hcontract⟩

theorem SourceEvent.not_candidate_iff {source : SourceEvent} :
    ¬source.Candidate ↔ source.event.type ≠ .contract ∨ source.inSuccessfulCall = false := by
  rw [← isCandidate_iff, isCandidate, Bool.and_eq_true, beq_iff_eq, Decidable.not_and_iff_or_not,
    Bool.not_eq_true, or_comm]

namespace Harvest

/-- The outcome that the shape of an event asks for. -/
structure Decides (options : HarvestOptions) (source : SourceEvent) (outcome : Harvested) :
    Prop where
  event : outcome.event = source.event
  notCandidate : outcome = .skipped source.event .notCandidate ↔
    source.event.type ≠ .contract ∨ source.inSuccessfulCall = false
  undecoded : source.Candidate → options.decodeAssetEvents = false →
    ∃ id, outcome = .emitted id source.event none
  unnamed : source.Candidate → options.decodeAssetEvents = true →
    (∀ kind, ¬Names source.event kind) → ∃ id, outcome = .emitted id source.event none
  described (kind : Kind) : source.Candidate → options.decodeAssetEvents = true →
    Names source.event kind →
      ((∃ id payload, outcome = .emitted id source.event (some payload)) ↔
        ∃ move, Describes kind source.event.topics source.event.data move)
  reported (kind : Kind) (payload : Record.AssetEvent) : source.Candidate →
    options.decodeAssetEvents = true → Names source.event kind →
      ((∃ id, outcome = .emitted id source.event (some payload)) ↔
        Reports options.network kind source.event payload)
  malformed (kind : Kind) : source.Candidate → options.decodeAssetEvents = true →
    Names source.event kind →
      ((∃ fault, outcome = .skipped source.event (.malformed ⟨kind, fault⟩)) ↔
        ¬∃ move, Describes kind source.event.topics source.event.data move)

variable {options : HarvestOptions} {source : SourceEvent}

/-! ## The verdict -/

theorem verdict_of_not_candidate (h : ¬source.Candidate) :
    verdict options source = .error .notCandidate := by
  have hfalse : ¬source.isCandidate = true := fun htrue => h (SourceEvent.isCandidate_iff.mp htrue)
  rw [verdict, if_neg hfalse]

theorem verdict_of_undecoded (h : source.Candidate) (hoff : options.decodeAssetEvents = false) :
    verdict options source = .ok none := by
  rw [verdict, if_pos (SourceEvent.isCandidate_iff.mpr h), hoff]
  exact if_neg Bool.false_ne_true

theorem verdict_of_unnamed (h : source.Candidate) (hon : options.decodeAssetEvents = true)
    (hnames : ∀ kind, ¬Names source.event kind) : verdict options source = .ok none := by
  rw [verdict, if_pos (SourceEvent.isCandidate_iff.mpr h), if_pos hon]
  split
  · next kind hkind =>
      exact absurd (AssetEvent.classify_eq_recognized_iff.mp hkind).2 (hnames kind)
  · rfl

section Named

variable {kind : Kind} (h : source.Candidate) (hon : options.decodeAssetEvents = true)
  (hnames : Names source.event kind)

include h hon hnames

theorem verdict_of_decode_ok {payload : Record.AssetEvent}
    (hdecode : AssetEvent.decode kind source.event options.network = .ok payload) :
    verdict options source = .ok (some payload) := by
  have hclassify := AssetEvent.classify_eq_recognized_iff.mpr ⟨h.contract, hnames⟩
  rw [verdict, if_pos (SourceEvent.isCandidate_iff.mpr h), if_pos hon]
  simp only [hclassify, hdecode]

theorem verdict_of_decode_error {malformed : AssetEvent.Malformed}
    (hdecode : AssetEvent.decode kind source.event options.network = .error malformed) :
    verdict options source = .error (.malformed malformed) := by
  have hclassify := AssetEvent.classify_eq_recognized_iff.mpr ⟨h.contract, hnames⟩
  rw [verdict, if_pos (SourceEvent.isCandidate_iff.mpr h), if_pos hon]
  simp only [hclassify, hdecode]

/-- A candidate of a kind is emitted with exactly what it reports. -/
theorem verdict_eq_reported_iff {payload : Record.AssetEvent} :
    verdict options source = .ok (some payload) ↔
      Reports options.network kind source.event payload := by
  rw [← AssetEvent.decode_eq_ok_iff]
  cases hdecode : AssetEvent.decode kind source.event options.network with
  | ok decoded => simp [verdict_of_decode_ok h hon hnames hdecode]
  | error malformed => simp [verdict_of_decode_error h hon hnames hdecode]

/-- A candidate of a kind is malformed, as one of that kind, if it describes no move. -/
theorem exists_verdict_eq_malformed_iff :
    (∃ fault, verdict options source = .error (.malformed ⟨kind, fault⟩)) ↔
      ¬∃ move, Describes kind source.event.topics source.event.data move := by
  constructor
  · rintro ⟨fault, hfault⟩ hmove
    obtain ⟨payload, hreports⟩ := AssetEvent.exists_reports_iff.mpr hmove
    rw [(verdict_eq_reported_iff h hon hnames).mpr hreports] at hfault
    cases hfault
  · intro hmove
    obtain ⟨fault, hfault⟩ :=
      AssetEvent.decode_eq_error_of_not_describes options.network (not_exists.mp hmove)
    exact ⟨fault, verdict_of_decode_error h hon hnames hfault⟩

end Named

theorem verdict_eq_notCandidate_iff :
    verdict options source = .error .notCandidate ↔ ¬source.Candidate := by
  constructor
  · intro hverdict h
    cases hon : options.decodeAssetEvents with
    | false =>
        rw [verdict_of_undecoded h hon] at hverdict
        cases hverdict
    | true =>
        by_cases hnames : ∃ kind, Names source.event kind
        · obtain ⟨kind, hnames⟩ := hnames
          cases hdecode : AssetEvent.decode kind source.event options.network with
          | ok payload =>
              rw [verdict_of_decode_ok h hon hnames hdecode] at hverdict
              cases hverdict
          | error malformed =>
              rw [verdict_of_decode_error h hon hnames hdecode] at hverdict
              cases hverdict
        · rw [verdict_of_unnamed h hon (not_exists.mp hnames)] at hverdict
          cases hverdict
  · exact verdict_of_not_candidate

/-- An asset event is given only to an event of a contract that names a kind and reports it. -/
theorem exists_reports_of_verdict {payload : Record.AssetEvent}
    (h : verdict options source = .ok (some payload)) :
    ∃ kind, source.event.type = .contract ∧ Names source.event kind ∧
      Reports options.network kind source.event payload := by
  unfold verdict at h
  split at h
  · split at h
    · split at h
      · next kind hkind =>
          obtain ⟨htype, hnames⟩ := AssetEvent.classify_eq_recognized_iff.mp hkind
          split at h
          · next decoded hdecode =>
              cases h
              exact ⟨kind, htype, hnames, AssetEvent.decode_eq_ok_iff.mp hdecode⟩
          · cases h
      · cases h
    · cases h
  · cases h

/-! ## The outcome of a verdict -/

/-- The outcome that a verdict leads to. -/
def outcome (id : EventId) (event : Protocol.ContractEvent) :
    Except SkipReason (Option Record.AssetEvent) → Harvested
  | .ok assetEvent => .emitted id event assetEvent
  | .error reason => .skipped event reason

theorem exists_outcome_eq_emitted_iff {id : EventId} {event : Protocol.ContractEvent}
    {verdict : Except SkipReason (Option Record.AssetEvent)}
    {assetEvent : Option Record.AssetEvent} :
    (∃ id', outcome id event verdict = .emitted id' event assetEvent) ↔
      verdict = .ok assetEvent := by
  cases verdict with
  | ok found => simp [outcome]
  | error reason => simp [outcome]

theorem outcome_eq_skipped_iff {id : EventId} {event : Protocol.ContractEvent}
    {verdict : Except SkipReason (Option Record.AssetEvent)} {reason : SkipReason} :
    outcome id event verdict = .skipped event reason ↔ verdict = .error reason := by
  cases verdict with
  | ok found => simp [outcome]
  | error found => simp [outcome]

theorem decides_outcome (options : HarvestOptions) (source : SourceEvent) (id : EventId) :
    Decides options source (outcome id source.event (verdict options source)) where
  event := by
    cases verdict options source with
    | ok assetEvent => rfl
    | error reason => rfl
  notCandidate := by
    rw [outcome_eq_skipped_iff, verdict_eq_notCandidate_iff, SourceEvent.not_candidate_iff]
  undecoded h hoff := exists_outcome_eq_emitted_iff.mpr (verdict_of_undecoded h hoff)
  unnamed h hon hnames := exists_outcome_eq_emitted_iff.mpr (verdict_of_unnamed h hon hnames)
  described kind h hon hnames := by
    have hpayload : (∃ payload, Reports options.network kind source.event payload) ↔ _ :=
      AssetEvent.exists_reports_iff
    rw [← hpayload, exists_comm]
    simp only [exists_outcome_eq_emitted_iff, verdict_eq_reported_iff h hon hnames]
  reported kind payload h hon hnames := by
    rw [exists_outcome_eq_emitted_iff, verdict_eq_reported_iff h hon hnames]
  malformed kind h hon hnames := by
    simp only [outcome_eq_skipped_iff]
    exact exists_verdict_eq_malformed_iff h hon hnames

theorem forall₂_decides_operationFrom (place : Toid) (options : HarvestOptions)
    (emitted : UInt32) (sources : List SourceEvent) :
    List.Forall₂ (Decides options) sources (operationFrom place options emitted sources) := by
  -- The outcome does not depend on the number, which is the only thing that moves on.
  induction sources generalizing emitted with
  | nil => exact .nil
  | cons source sources ih =>
      have hdecides := decides_outcome options source ⟨place, emitted + 1⟩
      cases h : verdict options source with
      | ok assetEvent =>
          rw [h] at hdecides
          rw [operationFrom_cons_of_ok place h]
          exact .cons hdecides (ih (emitted + 1))
      | error reason =>
          rw [h] at hdecides
          rw [operationFrom_cons_of_error place h]
          exact .cons hdecides (ih emitted)

/-- Each outcome of a harvest is that of some event. -/
theorem exists_of_mem_operationFrom {place : Toid} {emitted : UInt32}
    {sources : List SourceEvent} {harvested : Harvested}
    (h : harvested ∈ operationFrom place options emitted sources) :
    ∃ source ∈ sources, ∃ id, harvested = outcome id source.event (verdict options source) := by
  induction sources generalizing emitted with
  | nil => cases h
  | cons source sources ih =>
      have hcons : ∀ {more}, harvested ∈ operationFrom place options more sources →
          ∃ source' ∈ source :: sources, ∃ id,
            harvested = outcome id source'.event (verdict options source') := by
        intro more hmem
        obtain ⟨source', hsource', hid⟩ := ih hmem
        exact ⟨source', List.mem_cons_of_mem _ hsource', hid⟩
      cases hverdict : verdict options source with
      | ok assetEvent =>
          rw [operationFrom_cons_of_ok place hverdict] at h
          rcases List.mem_cons.mp h with rfl | h
          · refine ⟨source, List.mem_cons_self, ⟨place, emitted + 1⟩, ?_⟩
            rw [hverdict, outcome]
          · exact hcons h
      | error reason =>
          rw [operationFrom_cons_of_error place hverdict] at h
          rcases List.mem_cons.mp h with rfl | h
          · refine ⟨source, List.mem_cons_self, ⟨place, emitted⟩, ?_⟩
            rw [hverdict, outcome]
          · exact hcons h

/-- Wherever an event stands in a harvest, its outcome is the one that its shape asks for. -/
theorem outcomes_decided_by_shape (place : Toid) (options : HarvestOptions)
    (sources : List SourceEvent) :
    List.Forall₂ (Decides options) sources (operation place options sources) :=
  forall₂_decides_operationFrom place options 0 sources

/-- A burn with the four topics of a transfer is skipped as a malformed burn. -/
example (contract : Protocol.ContractId) (party : Protocol.ScAddress) (amount : Int128) :
    let burn : Protocol.ContractEvent := ⟨some contract, .contract,
      [.symbol (Utf8.bytes "burn"), .address party, .address party, .string []], .i128 amount⟩
    operation .zero ⟨true, none⟩ [⟨burn, true⟩] =
      [.skipped burn (.malformed ⟨.burn, .topicCount 3 4⟩)] := by
  cbv

end Harvest

end LedgerExport
