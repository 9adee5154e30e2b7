import LedgerExport.Proofs.Closing.Pairing
import Mathlib.Data.List.Count
import Mathlib.Data.List.Perm.Basic
import Mathlib.Data.Option.Basic

/-!
# Whether every envelope is used once

Where the results ask for the hashes of the envelopes, each as often as there are
envelopes that have it, one may expect every envelope to be used once. It is so
where no two envelopes share a hash. Where some do, the results that do not meet
their envelope at their own place all get the last one of the hash, and the other
envelopes of the hash that no result meets are lost.

## Implementation notes

A place whose envelope has the hash that the result there asks for uses its own
envelope, so all such places can be left out on both sides. What remains are the
displaced envelopes, and each of these must be the last one of its hash.
-/

namespace LedgerExport.LedgerClosing

open Protocol

/-! ## Lists that agree at some places -/

section Lists

variable {γ δ : Type}

/-- Two ways to look at a list are permutations of each other if they are so where they differ. -/
theorem map_perm_map_iff_of_agree {items : List γ} {f g : γ → δ} (agree : γ → Bool)
    (h : ∀ item ∈ items, agree item → f item = g item) :
    (items.map f).Perm (items.map g) ↔
      ((items.filter (!agree ·)).map f).Perm ((items.filter (!agree ·)).map g) := by
  have hsplit (k : γ → δ) : (items.map k).Perm
      ((items.filter agree).map k ++ (items.filter (!agree ·)).map k) := by
    rw [← List.map_append]
    exact (List.filter_append_perm agree items).symm.map k
  have hagree : (items.filter agree).map f = (items.filter agree).map g := by
    apply List.map_congr_left
    intro item hitem
    obtain ⟨hmem, hitem⟩ := List.mem_filter.mp hitem
    exact h item hmem hitem
  rw [(hsplit f).congr_left, (hsplit g).congr_right, hagree, List.perm_append_left_iff]

/-- Items are permuted into what stands for them only if each stands for itself. -/
theorem map_perm_map_some_iff {items : List γ} {f : γ → Option γ}
    (hidem : ∀ item found, f item = some found → f found = some found) :
    (items.map f).Perm (items.map some) ↔ ∀ item ∈ items, f item = some item := by
  constructor
  · intro hperm item hitem
    have hmem := hperm.mem_iff.mpr (List.mem_map_of_mem hitem)
    obtain ⟨other, _, hother⟩ := List.mem_map.mp hmem
    exact hidem other item hother
  · intro hall
    rw [List.map_congr_left hall]

end Lists

/-! ## Displaced envelopes -/

section Displaced

variable {network : NetworkId} {envelopes : List Envelope}

/-- Envelopes with their hashes. -/
def withHashes (network : NetworkId) (envelopes : List Envelope) : List Hashed :=
  envelopes.map fun envelope => (envelope, envelope.hash network)

/-- The last envelope of a hash. -/
def lastOf (network : NetworkId) (envelopes : List Envelope) (hash : Hash) : Option Envelope :=
  ((withHashes network envelopes).findRev? (·.2 = hash)).map (·.1)

/-- Behind an envelope stands no other one of its hash. -/
def IsLastOfHash (network : NetworkId) (envelopes : List Envelope) (envelope : Envelope) : Prop :=
  ∃ before after, envelopes = before ++ envelope :: after ∧
    ∀ later ∈ after, later.hash network ≠ envelope.hash network

theorem lastOf_eq_some_iff {hash : Hash} {envelope : Envelope} :
    lastOf network envelopes hash = some envelope ↔
      envelope.hash network = hash ∧ IsLastOfHash network envelopes envelope := by
  have hfind : lastOf network envelopes hash =
      envelopes.reverse.find? fun envelope => envelope.hash network = hash := by
    rw [lastOf, withHashes, List.findRev?_eq_find?_reverse, ← List.map_reverse, List.find?_map,
      Option.map_map]
    exact Option.map_id'
  rw [hfind, List.find?_eq_some_iff_append]
  constructor
  · rintro ⟨hhash, after, before, hreverse, hafter⟩
    have hhash : envelope.hash network = hash := by simpa using hhash
    refine ⟨hhash, before.reverse, after.reverse, ?_, ?_⟩
    · rw [← List.reverse_reverse envelopes, hreverse]
      simp
    · intro later hlater
      simpa [hhash] using hafter later (List.mem_reverse.mp hlater)
  · rintro ⟨rfl, before, after, rfl, hafter⟩
    refine ⟨by simp, after.reverse, before.reverse, by simp, ?_⟩
    intro later hlater
    simpa using hafter later (List.mem_reverse.mp hlater)

theorem lastOf_idem {envelope found : Envelope}
    (h : lastOf network envelopes (envelope.hash network) = some found) :
    lastOf network envelopes (found.hash network) = some found := by
  obtain ⟨hhash, hlast⟩ := lastOf_eq_some_iff.mp h
  exact lastOf_eq_some_iff.mpr ⟨rfl, hlast⟩

/-- The envelope that a result gets at a place, given the one that stands there. -/
def chosen (network : NetworkId) (envelopes : List Envelope) (place : Envelope × Hash) :
    Option Envelope :=
  envelopeFor place.2 (some (place.1, place.1.hash network)) (withHashes network envelopes)

/-- The envelope of a place has the hash that the result there asks for. -/
def meets (network : NetworkId) (place : Envelope × Hash) : Bool :=
  place.1.hash network = place.2

theorem meets_iff {place : Envelope × Hash} :
    meets network place ↔ place.1.hash network = place.2 := by
  rw [meets, decide_eq_true_iff]

theorem not_meets_iff {place : Envelope × Hash} :
    (!meets network place) ↔ place.1.hash network ≠ place.2 := by
  rw [Bool.not_eq_true', Bool.eq_false_iff, ne_eq, meets_iff]

theorem chosen_of_eq {envelope : Envelope} {asked : Hash} (h : envelope.hash network = asked) :
    chosen network envelopes (envelope, asked) = some envelope := by
  rw [chosen, envelopeFor, if_pos h]

theorem chosen_of_ne {envelope : Envelope} {asked : Hash} (h : envelope.hash network ≠ asked) :
    chosen network envelopes (envelope, asked) = lastOf network envelopes asked := by
  rw [chosen, envelopeFor, if_neg h, lastOf]

theorem map_envelope_pairFrom {ledger : UInt32} {all : List Envelope} {applied : List Applied}
    {transactions : List TransactionClosing} (hlength : envelopes.length = applied.length)
    (h : pairFrom ledger (withHashes network all) (withHashes network envelopes) applied =
      .ok transactions) :
    transactions.map (some ·.envelope) =
      (envelopes.zip (applied.map (·.result.hash))).map (chosen network all) := by
  induction applied generalizing envelopes transactions with
  | nil =>
      cases h
      rw [List.map_nil, List.map_nil, List.zip_nil_right, List.map_nil]
  | cons first more ih =>
      cases envelopes with
      | nil => cases hlength
      | cons envelope envelopes =>
          unfold pairFrom at h
          split at h
          · cases h
          · next found hfound =>
              obtain ⟨rest, hrest, h⟩ := bind_eq_ok_iff.mp h
              have hmore := ih (Nat.succ.inj hlength) hrest
              rw [← pure_eq_ok_iff.mp h, List.map_cons, List.map_cons, List.zip_cons_cons,
                List.map_cons, hmore]
              exact congrArg (· :: _) hfound.symm

/-- Every envelope stands at the place of a result that asks for its hash, or is the last one of
its hash. -/
def NoneDisplaced (network : NetworkId) (envelopes : List Envelope) (hashes : List Hash) : Prop :=
  ∀ (place : Nat) (envelope : Envelope), envelopes[place]? = some envelope →
    hashes[place]? = some (envelope.hash network) ∨ IsLastOfHash network envelopes envelope

theorem noneDisplaced_iff {hashes : List Hash} (hlength : envelopes.length = hashes.length) :
    NoneDisplaced network envelopes hashes ↔
      ∀ place ∈ envelopes.zip hashes, !meets network place →
        IsLastOfHash network envelopes place.1 := by
  constructor
  · intro hall place hmem hmeets
    obtain ⟨index, hindex⟩ := List.mem_iff_getElem?.mp hmem
    obtain ⟨henvelope, hasked⟩ := List.getElem?_zip_eq_some.mp hindex
    refine (hall index place.1 henvelope).resolve_left fun heq => ?_
    rw [hasked] at heq
    exact not_meets_iff.mp hmeets (Option.some.inj heq).symm
  · intro hall place envelope hplace
    obtain ⟨hlt, rfl⟩ := List.getElem?_eq_some_iff.mp hplace
    have hlt' : place < hashes.length := hlength ▸ hlt
    have hasked := List.getElem?_eq_getElem hlt'
    by_cases hmeets : envelopes[place].hash network = hashes[place]
    · exact .inl (hasked.trans (congrArg some hmeets.symm))
    · have hmem : (envelopes[place], hashes[place]) ∈ envelopes.zip hashes :=
        List.mem_of_getElem? (List.getElem?_zip_eq_some.mpr ⟨hplace, hasked⟩)
      exact .inr (hall _ hmem (not_meets_iff.mpr hmeets))

/-- The places whose envelopes do not have the hashes that the results there ask for. -/
def displaced (network : NetworkId) (places : List (Envelope × Hash)) : List (Envelope × Hash) :=
  places.filter (!meets network ·)

theorem map_chosen_displaced (places : List (Envelope × Hash)) :
    (displaced network places).map (chosen network envelopes) =
      ((displaced network places).map (·.2)).map (lastOf network envelopes) := by
  rw [List.map_map]
  apply List.map_congr_left
  intro place hplace
  exact chosen_of_ne (not_meets_iff.mp (List.mem_filter.mp hplace).2)

/-- If the results ask for the hashes of the envelopes, so do those at the displaced places. -/
theorem map_displaced_perm {places : List (Envelope × Hash)}
    (h : (places.map (·.2)).Perm (places.map (·.1.hash network))) :
    ((displaced network places).map (·.2)).Perm
      ((displaced network places).map (·.1.hash network)) := by
  refine (map_perm_map_iff_of_agree (meets network) ?_).mp h
  exact fun place _ hmeets => (meets_iff.mp hmeets).symm

/-- Where the results ask for the hashes of the envelopes, each envelope is used once if and only
if none is displaced by the last one of its hash. -/
theorem map_chosen_perm_iff {hashes : List Hash} (hlength : envelopes.length = hashes.length)
    (hhashes : hashes.Perm (envelopes.map (·.hash network))) :
    ((envelopes.zip hashes).map (chosen network envelopes)).Perm (envelopes.map some) ↔
      NoneDisplaced network envelopes hashes := by
  let places := envelopes.zip hashes
  let lost := (displaced network places).map (·.1)
  have henvelopes : places.map (·.1) = envelopes := List.map_fst_zip (Nat.le_of_eq hlength)
  have hasked : places.map (·.2) = hashes := List.map_snd_zip (Nat.le_of_eq hlength.symm)
  have hsome : envelopes.map some = places.map (some ·.1) := by
    conv_lhs => rw [← henvelopes, List.map_map]
    rfl
  -- The displaced results get the last envelopes of the hashes of the displaced envelopes.
  have hlast : ((displaced network places).map (chosen network envelopes)).Perm
      ((lost.map (·.hash network)).map (lastOf network envelopes)) := by
    have hperm : (places.map (·.2)).Perm (places.map (·.1.hash network)) := by
      rw [hasked]
      rwa [← henvelopes, List.map_map] at hhashes
    have hlost : lost.map (·.hash network) =
        (displaced network places).map (·.1.hash network) := List.map_map
    rw [map_chosen_displaced, hlost]
    exact (map_displaced_perm hperm).map _
  calc
    (places.map (chosen network envelopes)).Perm (envelopes.map some)
      ↔ ((displaced network places).map (chosen network envelopes)).Perm
          ((displaced network places).map (some ·.1)) := by
        rw [hsome]
        exact map_perm_map_iff_of_agree (meets network) fun _ _ hmeets =>
          chosen_of_eq (meets_iff.mp hmeets)
    _ ↔ (lost.map fun envelope => lastOf network envelopes (envelope.hash network)).Perm
          (lost.map some) := by
        have hsomes : (displaced network places).map (some ·.1) = lost.map some := by
          rw [List.map_map]
          rfl
        rw [hsomes, hlast.congr_left, List.map_map]
        rfl
    _ ↔ ∀ envelope ∈ lost, lastOf network envelopes (envelope.hash network) = some envelope :=
        map_perm_map_some_iff fun _ _ => lastOf_idem
    _ ↔ ∀ place ∈ places, !meets network place → IsLastOfHash network envelopes place.1 := by
        simp only [lost, displaced, List.forall_mem_map, lastOf_eq_some_iff, true_and,
          List.mem_filter, and_imp]
    _ ↔ NoneDisplaced network envelopes hashes := (noneDisplaced_iff hlength).symm

end Displaced

/-! ## The report -/

theorem map_envelope_ofReport {network : NetworkId} {report : LedgerClose}
    {closing : LedgerClosing} (h : ofReport network report = .ok closing)
    (hlength : (envelopesOf report).length = report.resultHashes.length) :
    closing.transactions.map (some ·.envelope) =
      ((envelopesOf report).zip report.resultHashes).map
        (chosen network (envelopesOf report)) := by
  obtain ⟨transactions, hpair, h⟩ := bind_eq_ok_iff.mp h
  rw [← pure_eq_ok_iff.mp h, ← map_hash_appliedOf]
  refine map_envelope_pairFrom ?_ hpair
  rw [hlength, ← map_hash_appliedOf, List.length_map]

/-- Where the results of a report ask for the hashes of its envelopes, each as often as there are
envelopes that have it, the transactions carry the envelopes of the set, each once, if and only if
every envelope stands at the place of a result that asks for its hash or is the last one of its
hash. It is so where no two envelopes share a hash. -/
theorem envelopes_permuted_iff (network : NetworkId) (report : LedgerClose)
    {closing : LedgerClosing} (h : ofReport network report = .ok closing)
    (hcount : ∀ hash, report.resultHashes.count hash =
      ((envelopesOf report).map (·.hash network)).count hash) :
    ((closing.transactions.map (·.envelope)).Perm (envelopesOf report) ↔
      NoneDisplaced network (envelopesOf report) report.resultHashes) ∧
    (((envelopesOf report).map (·.hash network)).Nodup →
      (closing.transactions.map (·.envelope)).Perm (envelopesOf report)) := by
  have hhashes : report.resultHashes.Perm ((envelopesOf report).map (·.hash network)) :=
    List.perm_iff_count.mpr hcount
  have hlength : (envelopesOf report).length = report.resultHashes.length := by
    rw [hhashes.length_eq, List.length_map]
  have hiff : (closing.transactions.map (·.envelope)).Perm (envelopesOf report) ↔
      NoneDisplaced network (envelopesOf report) report.resultHashes := by
    have hsome : (closing.transactions.map (·.envelope)).map some =
        closing.transactions.map (some ·.envelope) := List.map_map
    rw [← map_chosen_perm_iff hlength hhashes, ← map_envelope_ofReport h hlength, ← hsome,
      List.map_perm_map_iff fun _ _ => Option.some.inj]
  refine ⟨hiff, fun hnodup => hiff.mpr ?_⟩
  intro place envelope hplace
  obtain ⟨before, after, hset⟩ := List.append_of_mem (List.mem_of_getElem? hplace)
  refine .inr ⟨before, after, hset, ?_⟩
  intro later hlater hhash
  rw [hset, List.map_append, List.map_cons, List.nodup_append, List.nodup_cons] at hnodup
  exact hnodup.2.1.1 (hhash ▸ List.mem_map_of_mem hlater)

/-- A report of a set of envelopes and of results for some of them, with nothing else in it. -/
def bareReport (network : NetworkId) (set results : List Envelope) : LedgerClose :=
  let header : HeaderEntry := ⟨.zero 32, ⟨0, .zero 32, ⟨.zero 32, 0, [], none⟩, .zero 32, .zero 32,
    1, 0, 0, 0, 0, 0, 0, 0, .zero 128, none⟩⟩
  let processing (envelope : Envelope) : Processing :=
    ⟨⟨envelope.hash network, ⟨0, .plain (.success [])⟩⟩, [], .v0 []⟩
  .v0 ⟨header, ⟨.zero 32, set⟩, results.map processing, [], []⟩

theorem resultHashes_bareReport (network : NetworkId) (set results : List Envelope) :
    (bareReport network set results).resultHashes = results.map (·.hash network) :=
  List.map_map

theorem exists_ofReport_bareReport (network : NetworkId) {set results : List Envelope}
    (h : results ⊆ set) :
    ∃ closing, ofReport network (bareReport network set results) = .ok closing := by
  refine exists_ofReport_eq_ok_iff.mpr ?_
  rw [resultHashes_bareReport, List.forall_mem_map]
  exact fun envelope hmem => ⟨envelope, mem_envelopesOf_iff.mp (h hmem), rfl⟩

/-- A transaction that does nothing. -/
def idleTransaction (sequence : Int64) : Transaction :=
  ⟨.plain (.zero 32), 1, sequence, .none, .none, [], none⟩

/-- Two signed forms of one transaction are used once each, one at its own place and the other one
as the last of its hash. -/
theorem two_signed_forms_used_once :
    let unsigned : Envelope := .v1 ⟨idleTransaction 1, []⟩
    let signed : Envelope := .v1 ⟨idleTransaction 1, [⟨.zero 4, []⟩]⟩
    let other : Envelope := .v1 ⟨idleTransaction 2, []⟩
    let network := NetworkId.testnet
    let report := bareReport network [unsigned, signed, other] [unsigned, other, unsigned]
    ∃ closing, ofReport network report = .ok closing ∧
      (∀ hash, report.resultHashes.count hash =
        ((envelopesOf report).map (·.hash network)).count hash) ∧
      (closing.transactions.map (·.envelope)).Perm (envelopesOf report) := by
  intro unsigned signed other network report
  have hne : other.hash network ≠ unsigned.hash network := by decide +kernel
  have hcount (hash : Hash) : report.resultHashes.count hash =
      ((envelopesOf report).map (·.hash network)).count hash :=
    ((List.Perm.swap (unsigned.hash network) (other.hash network) []).cons _).count_eq hash
  obtain ⟨closing, hclosing⟩ := exists_ofReport_bareReport network
    (show [unsigned, other, unsigned] ⊆ [unsigned, signed, other] by simp)
  refine ⟨closing, hclosing, hcount,
    (envelopes_permuted_iff network report hclosing hcount).1.mpr ?_⟩
  rintro (_ | _ | _ | place) envelope hplace
  · cases hplace
    exact .inl rfl
  · cases hplace
    exact .inr ⟨[unsigned], [other], rfl, List.forall_mem_singleton.mpr hne⟩
  · cases hplace
    exact .inr ⟨[unsigned, signed], [], rfl, by simp⟩
  · cases hplace

/-- Two signed forms of one transaction have one hash. Where another result comes first, the
second form is used at its own place and as the last of its hash, and the first one is lost. -/
theorem first_of_two_signed_forms_lost :
    let unsigned : Envelope := .v1 ⟨idleTransaction 1, []⟩
    let signed : Envelope := .v1 ⟨idleTransaction 1, [⟨.zero 4, []⟩]⟩
    let other : Envelope := .v1 ⟨idleTransaction 2, []⟩
    let network := NetworkId.testnet
    let report := bareReport network [unsigned, signed, other] [other, unsigned, unsigned]
    (∀ hash, report.resultHashes.count hash =
        ((envelopesOf report).map (·.hash network)).count hash) ∧
      ∃ closing, ofReport network report = .ok closing ∧
        closing.transactions.map (·.envelope) = [other, signed, signed] ∧
        ¬(closing.transactions.map (·.envelope)).Perm (envelopesOf report) := by
  intro unsigned signed other network report
  have hne : other.hash network ≠ unsigned.hash network := by decide +kernel
  have hhashes : [other.hash network, unsigned.hash network, unsigned.hash network].Perm
      [unsigned.hash network, signed.hash network, other.hash network] :=
    (List.perm_append_comm : ([_] ++ [_, _]).Perm _)
  obtain ⟨closing, hclosing⟩ := exists_ofReport_bareReport network
    (show [other, unsigned, unsigned] ⊆ [unsigned, signed, other] by simp)
  have hother : lastOf network (envelopesOf report) (other.hash network) = some other :=
    lastOf_eq_some_iff.mpr ⟨rfl, [unsigned, signed], [], rfl, by simp⟩
  have hsigned : lastOf network (envelopesOf report) (unsigned.hash network) = some signed :=
    lastOf_eq_some_iff.mpr ⟨rfl, [unsigned], [other], rfl, List.forall_mem_singleton.mpr hne⟩
  have hsame : signed.hash network = unsigned.hash network := rfl
  have hchosen : ((envelopesOf report).zip report.resultHashes).map
      (chosen network (envelopesOf report)) = [some other, some signed, some signed] := by
    show [chosen network (envelopesOf report) (unsigned, other.hash network),
      chosen network (envelopesOf report) (signed, unsigned.hash network),
      chosen network (envelopesOf report) (other, unsigned.hash network)] = _
    rw [chosen_of_ne hne.symm, chosen_of_eq hsame, chosen_of_ne hne, hother, hsigned]
  have henvelopes : closing.transactions.map (·.envelope) = [other, signed, signed] := by
    apply List.map_injective_iff.mpr (Option.some_injective Envelope)
    rw [List.map_map]
    exact (map_envelope_ofReport hclosing rfl).trans hchosen
  refine ⟨hhashes.count_eq, closing, hclosing, henvelopes, fun hperm => ?_⟩
  rw [henvelopes] at hperm
  have hmem : unsigned ∈ [other, signed, signed] := hperm.mem_iff.mpr List.mem_cons_self
  simp [unsigned, other, signed, idleTransaction] at hmem

end LedgerExport.LedgerClosing
