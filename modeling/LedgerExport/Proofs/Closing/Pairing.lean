import LedgerExport.Closing
import LedgerExport.Proofs.Except
import Mathlib.Data.List.Forall2

/-!
# Every result gets its own envelope

The envelope at the place of a result is a guess, and the search through the set
is what makes up for a wrong one. Neither shows in what comes out: a result gets
an envelope of the set that has its hash, wherever in the set that stands, and
pairing fails at the first result that has none.

## Implementation notes

Both ways to find an envelope look among all envelopes of the set with their
hashes; that the envelopes still to come are some of these is the invariant of
the walk along the results.
-/

namespace LedgerExport

namespace Protocol

/-- An envelope stands in a component, or in a cluster of a stage, of a phase. -/
inductive Phase.Holds (envelope : Envelope) : Phase → Prop
  | component {components : List Component} {component : Component} :
      component ∈ components → envelope ∈ component.envelopes →
        Holds envelope (.components components)
  | cluster {component : ParallelComponent} {stage : List (List Envelope)}
      {cluster : List Envelope} :
      stage ∈ component.stages → cluster ∈ stage → envelope ∈ cluster →
        Holds envelope (.parallel component)

namespace LedgerClose

/-- An envelope stands in the set of a report: in the list of the oldest one, or in a phase. -/
inductive Holds (envelope : Envelope) : LedgerClose → Prop
  | v0 {report : LedgerCloseV0} : envelope ∈ report.txSet.envelopes → Holds envelope (.v0 report)
  | v1 {report : LedgerCloseV1} {phase : Phase} :
      phase ∈ report.txSet.phases → phase.Holds envelope → Holds envelope (.v1 report)
  | v2 {report : LedgerCloseV2} {phase : Phase} :
      phase ∈ report.txSet.phases → phase.Holds envelope → Holds envelope (.v2 report)

/-- The hashes of the transactions that a report has results for, in order. -/
def resultHashes : LedgerClose → List Hash
  | .v0 report => report.processing.map (·.result.hash)
  | .v1 report => report.processing.map (·.result.hash)
  | .v2 report => report.processing.map (·.result.hash)

/-- Some envelope of the set has the hash. -/
def HasEnvelope (network : NetworkId) (report : LedgerClose) (hash : Hash) : Prop :=
  ∃ envelope, Holds envelope report ∧ envelope.hash network = hash

end LedgerClose

/-- A transaction has what an older report says became of it, and no late changes. -/
structure Processing.CarriedBy (processing : Processing) (transaction : TransactionClosing) :
    Prop where
  result : transaction.result = processing.result
  feeChanges : transaction.feeChanges = processing.feeChanges
  postApplyFeeChanges : transaction.postApplyFeeChanges = none
  applied : transaction.applied = processing.applied

/-- A transaction has what a newer report says became of it. -/
structure ProcessingV1.CarriedBy (processing : ProcessingV1) (transaction : TransactionClosing) :
    Prop where
  result : transaction.result = processing.result
  feeChanges : transaction.feeChanges = processing.feeChanges
  postApplyFeeChanges : transaction.postApplyFeeChanges = some processing.postApplyFeeChanges
  applied : transaction.applied = processing.applied

/-- Transactions have, one by one, what a report says became of them. -/
def LedgerClose.CarriedBy : LedgerClose → List TransactionClosing → Prop
  | .v0 report, transactions => List.Forall₂ Processing.CarriedBy report.processing transactions
  | .v1 report, transactions => List.Forall₂ Processing.CarriedBy report.processing transactions
  | .v2 report, transactions => List.Forall₂ ProcessingV1.CarriedBy report.processing transactions

theorem Phase.mem_envelopes_iff {phase : Phase} {envelope : Envelope} :
    envelope ∈ phase.envelopes ↔ phase.Holds envelope := by
  constructor
  · intro h
    cases phase with
    | components components =>
        obtain ⟨component, hcomponent, h⟩ := List.mem_flatMap.mp h
        exact .component hcomponent h
    | parallel component =>
        obtain ⟨cluster, hcluster, h⟩ := List.mem_flatten.mp h
        obtain ⟨stage, hstage, hcluster⟩ := List.mem_flatten.mp hcluster
        exact .cluster hstage hcluster h
  · intro h
    cases h with
    | component hcomponent h => exact List.mem_flatMap.mpr ⟨_, hcomponent, h⟩
    | cluster hstage hcluster h =>
        exact List.mem_flatten.mpr ⟨_, List.mem_flatten.mpr ⟨_, hstage, hcluster⟩, h⟩

theorem GeneralizedSet.mem_envelopes_iff {set : GeneralizedSet} {envelope : Envelope} :
    envelope ∈ set.envelopes ↔ ∃ phase ∈ set.phases, phase.Holds envelope := by
  simp only [envelopes, List.mem_flatMap, Phase.mem_envelopes_iff]

end Protocol

namespace LedgerClosing

open Protocol

theorem mem_envelopesOf_iff {report : LedgerClose} {envelope : Envelope} :
    envelope ∈ envelopesOf report ↔ report.Holds envelope := by
  constructor
  · intro h
    cases report with
    | v0 report => exact .v0 h
    | v1 report =>
        obtain ⟨phase, hphase, h⟩ := GeneralizedSet.mem_envelopes_iff.mp h
        exact .v1 hphase h
    | v2 report =>
        obtain ⟨phase, hphase, h⟩ := GeneralizedSet.mem_envelopes_iff.mp h
        exact .v2 hphase h
  · intro h
    cases h with
    | v0 h => exact h
    | v1 hphase h => exact GeneralizedSet.mem_envelopes_iff.mpr ⟨_, hphase, h⟩
    | v2 hphase h => exact GeneralizedSet.mem_envelopes_iff.mpr ⟨_, hphase, h⟩

theorem map_hash_appliedOf (report : LedgerClose) :
    (appliedOf report).map (·.result.hash) = report.resultHashes := by
  cases report with
  | v0 report => rw [appliedOf, LedgerClose.resultHashes, List.map_map]; rfl
  | v1 report => rw [appliedOf, LedgerClose.resultHashes, List.map_map]; rfl
  | v2 report => rw [appliedOf, LedgerClose.resultHashes, List.map_map]; rfl

/-! ## One result -/

/-- An envelope of the given ones has the hash. -/
def Found (all : List Hashed) (wanted : Hash) : Prop :=
  ∃ envelope, (envelope, wanted) ∈ all

variable {all : List Hashed}

theorem search_eq_some {wanted : Hash} {envelope : Envelope}
    (h : (all.findRev? (·.2 = wanted)).map (·.1) = some envelope) : (envelope, wanted) ∈ all := by
  rw [List.findRev?_eq_find?_reverse, Option.map_eq_some_iff] at h
  obtain ⟨⟨_, hash⟩, hfind, rfl⟩ := h
  have hhash : hash = wanted := by simpa using List.find?_some hfind
  rw [← hhash]
  exact List.mem_reverse.mp (List.mem_of_find?_eq_some hfind)

theorem search_eq_none {wanted : Hash} (h : (all.findRev? (·.2 = wanted)).map (·.1) = none) :
    ¬Found all wanted := by
  rw [List.findRev?_eq_find?_reverse, Option.map_eq_none_iff, List.find?_eq_none] at h
  rintro ⟨envelope, hmem⟩
  exact h _ (List.mem_reverse.mpr hmem) (by simp)

/-- The envelope that is found has the hash, at the place of the result or elsewhere. -/
theorem envelopeFor_eq_some {wanted : Hash} {here : Option Hashed} {envelope : Envelope}
    (hhere : ∀ hashed, here = some hashed → hashed ∈ all)
    (h : envelopeFor wanted here all = some envelope) : (envelope, wanted) ∈ all := by
  unfold envelopeFor at h
  split at h
  · next found hash =>
      split at h
      · next hhash =>
          cases h
          rw [← hhash]
          exact hhere _ rfl
      · exact search_eq_some h
  · exact search_eq_some h

theorem envelopeFor_eq_none {wanted : Hash} {here : Option Hashed}
    (h : envelopeFor wanted here all = none) : ¬Found all wanted := by
  unfold envelopeFor at h
  split at h
  · split at h
    · cases h
    · exact search_eq_none h
  · exact search_eq_none h

/-! ## All results -/

variable {ledger : UInt32}

/-- A result is closed by an envelope that has its hash. -/
def Closes (all : List Hashed) (applied : Applied) (transaction : TransactionClosing) : Prop :=
  ∃ envelope, (envelope, applied.result.hash) ∈ all ∧ applied.close envelope = transaction

theorem pairFrom_eq_ok {here : List Hashed} {applied : List Applied}
    {transactions : List TransactionClosing} (hhere : here ⊆ all)
    (h : pairFrom ledger all here applied = .ok transactions) :
    List.Forall₂ (Closes all) applied transactions := by
  induction applied generalizing here transactions with
  | nil =>
      cases h
      exact .nil
  | cons first more ih =>
      unfold pairFrom at h
      split at h
      · cases h
      · next envelope henvelope =>
          obtain ⟨rest, hrest, h⟩ := bind_eq_ok_iff.mp h
          rw [← pure_eq_ok_iff.mp h]
          -- The envelopes still to come are some of all of them before and after the step.
          refine .cons ⟨envelope, ?_, rfl⟩ (ih ?_ hrest)
          · exact envelopeFor_eq_some (fun _ hhead => hhere (List.mem_of_head? hhead)) henvelope
          · exact fun _ hmem => hhere (List.mem_of_mem_tail hmem)

theorem exists_closes_of_mem {applied : List Applied} {transactions : List TransactionClosing}
    (h : List.Forall₂ (Closes all) applied transactions) {transaction : TransactionClosing}
    (hmem : transaction ∈ transactions) : ∃ a ∈ applied, Closes all a transaction := by
  induction h with
  | nil => cases hmem
  | cons hcloses _ ih =>
      rcases List.mem_cons.mp hmem with rfl | hmem
      · exact ⟨_, List.mem_cons_self, hcloses⟩
      · obtain ⟨a, ha, hcloses⟩ := ih hmem
        exact ⟨a, List.mem_cons_of_mem _ ha, hcloses⟩

/-- Pairing stops at the first result that no envelope has the hash of. -/
theorem pairFrom_eq_error {here : List Hashed} {applied : List Applied} {error : Error}
    (hhere : here ⊆ all) (h : pairFrom ledger all here applied = .error error) :
    ∃ before missing after, applied.map (·.result.hash) = before ++ missing :: after ∧
      (∀ hash ∈ before, Found all hash) ∧ ¬Found all missing ∧
      error = .envelopeMissing missing ledger.toNat := by
  induction applied generalizing here with
  | nil => cases h
  | cons first more ih =>
      unfold pairFrom at h
      split at h
      · next hnone =>
          cases h
          exact ⟨[], first.result.hash, more.map (·.result.hash), rfl, by simp,
            envelopeFor_eq_none hnone, rfl⟩
      · next envelope henvelope =>
          have hfound : Found all first.result.hash :=
            ⟨envelope, envelopeFor_eq_some (fun _ hhead => hhere (List.mem_of_head? hhead))
              henvelope⟩
          have htail : here.tail ⊆ all := fun _ hmem => hhere (List.mem_of_mem_tail hmem)
          rcases bind_eq_error_iff.mp h with hrest | ⟨_, _, h⟩
          · obtain ⟨before, missing, after, hmap, hbefore, hmissing, herror⟩ := ih htail hrest
            refine ⟨first.result.hash :: before, missing, after, ?_, ?_, hmissing, herror⟩
            · rw [List.map_cons, hmap, List.cons_append]
            · rintro hash (_ | ⟨_, hmem⟩)
              · exact hfound
              · exact hbefore hash hmem
          · cases h

/-! ## The report -/

section Report

variable {network : NetworkId} {report : LedgerClose}

/-- The envelopes of a report with their hashes. -/
def hashedOf (network : NetworkId) (report : LedgerClose) : List Hashed :=
  (envelopesOf report).map fun envelope => (envelope, envelope.hash network)

theorem mem_hashedOf_iff {envelope : Envelope} {hash : Hash} :
    (envelope, hash) ∈ hashedOf network report ↔
      report.Holds envelope ∧ envelope.hash network = hash := by
  rw [hashedOf, List.mem_map, ← mem_envelopesOf_iff]
  constructor
  · rintro ⟨_, hmem, ⟨⟩⟩
    exact ⟨hmem, rfl⟩
  · rintro ⟨hmem, rfl⟩
    exact ⟨envelope, hmem, rfl⟩

theorem found_hashedOf_iff {hash : Hash} :
    Found (hashedOf network report) hash ↔ report.HasEnvelope network hash := by
  simp only [Found, LedgerClose.HasEnvelope, mem_hashedOf_iff]

theorem ofReport_eq_ok {closing : LedgerClosing} (h : ofReport network report = .ok closing) :
    closing.header = headerOf report ∧
      List.Forall₂ (Closes (hashedOf network report)) (appliedOf report) closing.transactions := by
  obtain ⟨transactions, hpair, h⟩ := bind_eq_ok_iff.mp h
  rw [← pure_eq_ok_iff.mp h]
  exact ⟨rfl, pairFrom_eq_ok (List.Subset.refl _) hpair⟩

/-- A report fails at the first of its results that no envelope has the hash of. -/
theorem ofReport_eq_error {error : Error} (h : ofReport network report = .error error) :
    ∃ before missing after, report.resultHashes = before ++ missing :: after ∧
      (∀ hash ∈ before, report.HasEnvelope network hash) ∧
      ¬report.HasEnvelope network missing ∧
      error = .envelopeMissing missing (headerOf report).header.ledgerSeq.toNat := by
  have hpair : pairFrom (headerOf report).header.ledgerSeq (hashedOf network report)
      (hashedOf network report) (appliedOf report) = .error error := by
    rcases bind_eq_error_iff.mp h with hpair | ⟨_, _, h⟩
    · exact hpair
    · cases h
  obtain ⟨before, missing, after, hmap, hbefore, hmissing, herror⟩ :=
    pairFrom_eq_error (List.Subset.refl _) hpair
  rw [map_hash_appliedOf] at hmap
  simp only [found_hashedOf_iff] at hbefore hmissing
  exact ⟨before, missing, after, hmap, hbefore, hmissing, herror⟩

theorem carriedBy_of_closes {all : List Hashed} {transactions : List TransactionClosing}
    (h : List.Forall₂ (Closes all) (appliedOf report) transactions) :
    report.CarriedBy transactions := by
  cases report with
  | v0 report =>
      refine (List.forall₂_map_left_iff.mp h).imp ?_
      rintro processing _ ⟨envelope, _, rfl⟩
      exact ⟨rfl, rfl, rfl, rfl⟩
  | v1 report =>
      refine (List.forall₂_map_left_iff.mp h).imp ?_
      rintro processing _ ⟨envelope, _, rfl⟩
      exact ⟨rfl, rfl, rfl, rfl⟩
  | v2 report =>
      refine (List.forall₂_map_left_iff.mp h).imp ?_
      rintro processing _ ⟨envelope, _, rfl⟩
      exact ⟨rfl, rfl, rfl, rfl⟩

theorem envelopes_of_closes {transactions : List TransactionClosing}
    (h : List.Forall₂ (Closes (hashedOf network report)) (appliedOf report) transactions) :
    List.Forall₂
      (fun hash transaction => report.Holds transaction.envelope ∧
        transaction.envelope.hash network = hash)
      report.resultHashes transactions := by
  rw [← map_hash_appliedOf, List.forall₂_map_left_iff]
  refine h.imp ?_
  rintro applied _ ⟨envelope, hmem, rfl⟩
  exact mem_hashedOf_iff.mp hmem

/-- A report succeeds if every result has an envelope of its hash. -/
theorem exists_ofReport_eq_ok_iff :
    (∃ closing, ofReport network report = .ok closing) ↔
      ∀ hash ∈ report.resultHashes, report.HasEnvelope network hash := by
  constructor
  · rintro ⟨closing, h⟩
    have hboth : List.Forall₂ (fun hash _ => report.HasEnvelope network hash ∧ True)
        report.resultHashes closing.transactions := by
      refine (envelopes_of_closes (ofReport_eq_ok h).2).imp ?_
      intro hash transaction henvelope
      exact ⟨⟨transaction.envelope, henvelope⟩, trivial⟩
    exact (List.forall₂_and_left _ _).mp hboth |>.1
  · intro hall
    cases h : ofReport network report with
    | ok closing => exact ⟨closing, rfl⟩
    | error error =>
        obtain ⟨before, missing, after, hmap, _, hmissing, _⟩ := ofReport_eq_error h
        refine absurd (hall missing ?_) hmissing
        rw [hmap]
        exact List.mem_append_right _ List.mem_cons_self

/-- Where no two envelopes share a hash, there is one way to close the results. -/
theorem closes_rightUnique
    (hdistinct : ∀ envelope envelope', report.Holds envelope → report.Holds envelope' →
      envelope.hash network = envelope'.hash network → envelope = envelope') :
    Relator.RightUnique (Closes (hashedOf network report)) := by
  rintro applied _ _ ⟨envelope, hmem, rfl⟩ ⟨envelope', hmem', rfl⟩
  obtain ⟨hholds, hhash⟩ := mem_hashedOf_iff.mp hmem
  obtain ⟨hholds', hhash'⟩ := mem_hashedOf_iff.mp hmem'
  rw [hdistinct envelope envelope' hholds hholds' (hhash.trans hhash'.symm)]

/-- Where no two envelopes share a hash, their order and their grouping do not matter. -/
theorem transactions_eq_of_same_envelopes {report' : LedgerClose} {closing : LedgerClosing}
    (hdistinct : ∀ envelope envelope', report.Holds envelope → report.Holds envelope' →
      envelope.hash network = envelope'.hash network → envelope = envelope')
    (happlied : appliedOf report' = appliedOf report)
    (hsame : ∀ envelope, report'.Holds envelope ↔ report.Holds envelope)
    (h : ofReport network report = .ok closing) :
    ∃ closing', ofReport network report' = .ok closing' ∧
      closing'.transactions = closing.transactions := by
  have hhashes : report'.resultHashes = report.resultHashes := by
    rw [← map_hash_appliedOf, happlied, map_hash_appliedOf]
  have hall : ∀ hash ∈ report'.resultHashes, report'.HasEnvelope network hash := by
    simp only [hhashes, LedgerClose.HasEnvelope, hsame]
    exact exists_ofReport_eq_ok_iff.mp ⟨closing, h⟩
  obtain ⟨closing', h'⟩ := exists_ofReport_eq_ok_iff.mpr hall
  refine ⟨closing', h', ?_⟩
  have hcloses' : List.Forall₂ (Closes (hashedOf network report)) (appliedOf report)
      closing'.transactions := by
    rw [← happlied]
    refine (ofReport_eq_ok h').2.imp ?_
    rintro applied _ ⟨envelope, hmem, rfl⟩
    obtain ⟨hholds, hhash⟩ := mem_hashedOf_iff.mp hmem
    exact ⟨envelope, mem_hashedOf_iff.mpr ⟨(hsame envelope).mp hholds, hhash⟩, rfl⟩
  exact (closes_rightUnique hdistinct).forall₂ hcloses' (ofReport_eq_ok h).2

variable (network) (report) in
/-- A report is closed if every result has an envelope of its hash, and fails at the first result
that has none. A closed report has a transaction for each result, in order, with what became of
it and an envelope of its hash; where no two envelopes share a hash, the transactions are the same
for every set of these envelopes. -/
theorem ofReport_pairs_by_hash :
    ((∃ closing, ofReport network report = .ok closing) ↔
      ∀ hash ∈ report.resultHashes, report.HasEnvelope network hash) ∧
    (∀ closing, ofReport network report = .ok closing →
      closing.header = headerOf report ∧ report.CarriedBy closing.transactions ∧
        List.Forall₂
          (fun hash transaction => report.Holds transaction.envelope ∧
            transaction.envelope.hash network = hash)
          report.resultHashes closing.transactions) ∧
    (∀ error, ofReport network report = .error error →
      ∃ before missing after, report.resultHashes = before ++ missing :: after ∧
        (∀ hash ∈ before, report.HasEnvelope network hash) ∧
        ¬report.HasEnvelope network missing ∧
        error = .envelopeMissing missing (headerOf report).header.ledgerSeq.toNat ∧
        error.category = .notFound) ∧
    ((∀ envelope envelope', report.Holds envelope → report.Holds envelope' →
        envelope.hash network = envelope'.hash network → envelope = envelope') →
      ∀ report', appliedOf report' = appliedOf report →
        (∀ envelope, report'.Holds envelope ↔ report.Holds envelope) →
          ∀ closing, ofReport network report = .ok closing →
            ∃ closing', ofReport network report' = .ok closing' ∧
              closing'.transactions = closing.transactions) := by
  refine ⟨exists_ofReport_eq_ok_iff, fun closing h => ?_, fun error h => ?_, ?_⟩
  · obtain ⟨hheader, hcloses⟩ := ofReport_eq_ok h
    exact ⟨hheader, carriedBy_of_closes hcloses, envelopes_of_closes hcloses⟩
  · obtain ⟨before, missing, after, hmap, hbefore, hmissing, herror⟩ := ofReport_eq_error h
    refine ⟨before, missing, after, hmap, hbefore, hmissing, herror, ?_⟩
    rw [herror]
    rfl
  · intro hdistinct report' happlied hsame closing h
    exact transactions_eq_of_same_envelopes hdistinct happlied hsame h

end Report

/-- Two envelopes that stand in the other order than the results, and in two phases of another
set, are brought to the same results. -/
theorem closing_of_two_swapped_envelopes :
    let first : Envelope := .v1 ⟨⟨.plain (.zero 32), 1, 1, .none, .none, [], none⟩, []⟩
    let second : Envelope := .v1 ⟨⟨.plain (.zero 32), 2, 1, .none, .none, [], none⟩, []⟩
    let network := NetworkId.testnet
    let header : HeaderEntry := ⟨.zero 32, ⟨0, .zero 32, ⟨.zero 32, 0, [], none⟩, .zero 32,
      .zero 32, 1, 0, 0, 0, 0, 0, 0, 0, .zero 128, none⟩⟩
    let processing : List Processing := [first, second].map fun envelope =>
      ⟨⟨envelope.hash network, ⟨0, .plain (.success [])⟩⟩, [], .v0 []⟩
    let report : LedgerClose := .v0 ⟨header, ⟨.zero 32, [second, first]⟩, processing, [], []⟩
    let regrouped : LedgerClose := .v1 ⟨none, header, ⟨.zero 32, [.components [⟨none, [first]⟩],
      .parallel ⟨none, [[[second]]]⟩]⟩, processing, [], [], 0, [], []⟩
    first.hash network ≠ second.hash network ∧
      ∃ closing, ofReport network report = .ok closing ∧ report.CarriedBy closing.transactions ∧
        ∃ closing', ofReport network regrouped = .ok closing' ∧
          closing'.transactions = closing.transactions := by
  intro first second network header processing report regrouped
  have hne : first.hash network ≠ second.hash network := by decide +kernel
  have hmem (envelope : Envelope) :
      report.Holds envelope ↔ envelope = first ∨ envelope = second := by
    rw [← mem_envelopesOf_iff, or_comm]
    exact List.mem_pair
  have hmem' (envelope : Envelope) :
      regrouped.Holds envelope ↔ envelope = first ∨ envelope = second := by
    rw [← mem_envelopesOf_iff]
    exact List.mem_pair
  obtain ⟨hsuccess, hclosed, -, hunique⟩ := ofReport_pairs_by_hash network report
  have hhashes : ∀ hash ∈ report.resultHashes, report.HasEnvelope network hash := by
    rintro hash (_ | ⟨_, _ | ⟨_, ⟨⟩⟩⟩)
    · exact ⟨first, (hmem first).mpr (.inl rfl), rfl⟩
    · exact ⟨second, (hmem second).mpr (.inr rfl), rfl⟩
  obtain ⟨closing, hclosing⟩ := hsuccess.mpr hhashes
  refine ⟨hne, closing, hclosing, (hclosed closing hclosing).2.1, ?_⟩
  refine hunique ?_ regrouped rfl (fun envelope => (hmem' envelope).trans (hmem envelope).symm)
    closing hclosing
  intro envelope envelope' h h' hhash
  rcases (hmem envelope).mp h with rfl | rfl <;> rcases (hmem envelope').mp h' with rfl | rfl
  · rfl
  · exact absurd hhash hne
  · exact absurd hhash.symm hne
  · rfl

end LedgerClosing

end LedgerExport
