import LedgerExport.Proofs.Render.Alignment
import LedgerExport.Proofs.Xdr.Faithful
import Mathlib.Data.List.Nodup

/-!
# What the results of operations show

An operation that was carried out has an outcome. Its record is of the same kind
and has the code that stands in the encoding of the outcome, under the name that
the kind gives to that code. What some code carries is shown under that code and
under no other, and lists are shown in order, entry by entry.

## Implementation notes

Codes are compared with the encoded words and not with the constructors, so that
number and name are two things that have to agree. The codes of each kind are
listed once, with the one that carries an asset among them.
-/

namespace LedgerExport

/-! ## Words in front of an encoding -/

namespace Xdr

theorem int32_write_inj {m n : Int32} {rest rest' : Octets}
    (h : int32.write m rest = int32.write n rest') : m = n ∧ rest = rest' := by
  have hread (k : Int32) (rest : Octets) : int32.read (int32.write k rest) = .ok (k, rest) :=
    faithful_int32.read_write trivial rest
  have hsame := hread m rest
  rw [h, hread n rest'] at hsame
  exact (Prod.mk.inj (Except.ok.inj hsame)).imp Eq.symm Eq.symm

variable {σ α : Type} {layout : Layout σ α} {part : σ} {words words' : List Int32}

/-- The encoding begins with some signed words. -/
def Layout.Begins (layout : Layout σ α) (part : σ) (words : List Int32) : Prop :=
  ∃ rest, layout.encode part = words.foldr int32.write rest

theorem eq_of_foldr_write_eq {rest rest' : Octets}
    (h : words.foldr int32.write rest = words'.foldr int32.write rest')
    (hlength : words.length = words'.length) : words = words' := by
  induction words generalizing words' with
  | nil => exact (List.length_eq_zero_iff.mp hlength.symm).symm
  | cons m words ih =>
      cases words' with
      | nil => cases hlength
      | cons n words' =>
          rw [List.foldr_cons, List.foldr_cons] at h
          obtain ⟨hfirst, hwords⟩ := int32_write_inj h
          rw [hfirst, ih hwords (Nat.succ.inj hlength)]

/-- The encoding begins with one row of words of each length. -/
theorem Layout.Begins.unique (h : layout.Begins part words) (h' : layout.Begins part words')
    (hlength : words.length = words'.length) : words = words' := by
  obtain ⟨rest, hrest⟩ := h
  obtain ⟨rest', hrest'⟩ := h'
  exact eq_of_foldr_write_eq (hrest.symm.trans hrest') hlength

end Xdr

/-! ## Codes -/

namespace Protocol

namespace FailureTable

/-- The codes of the failures in a table. -/
def codes (table : FailureTable) : List Record.ResultCode :=
  table.map fun entry => ⟨Int32.ofInt (-entry.1), entry.2⟩

/-- The failures of a table and the one that carries an asset. -/
def withIssuer (table : FailureTable) : FailureTable :=
  (noIssuerNumber, "NoIssuer") :: table

/-- The numbers of a table can be negated in four bytes. -/
def Negatable (table : FailureTable) : Prop :=
  ∀ entry ∈ table, 0 < entry.1 ∧ entry.1 ≤ 0x80000000

instance (table : FailureTable) : Decidable table.Negatable :=
  inferInstanceAs (Decidable (∀ entry ∈ table, 0 < entry.1 ∧ entry.1 ≤ 0x80000000))

end FailureTable

namespace OperationKind

/-- The failures of a kind, with the one that carries an asset. -/
def failures : OperationKind → FailureTable
  | createAccount => .createAccount
  | payment => .payment
  | pathPaymentStrictReceive => FailureTable.pathPaymentStrictReceive.withIssuer
  | manageSellOffer => .manageOffer
  | createPassiveSellOffer => .manageOffer
  | setOptions => .setOptions
  | changeTrust => .changeTrust
  | allowTrust => .allowTrust
  | accountMerge => .accountMerge
  | inflation => .inflation
  | manageData => .manageData
  | bumpSequence => .bumpSequence
  | manageBuyOffer => .manageOffer
  | pathPaymentStrictSend => FailureTable.pathPaymentStrictSend.withIssuer
  | createClaimableBalance => .createClaimableBalance
  | claimClaimableBalance => .claimClaimableBalance
  | beginSponsoringFutureReserves => .beginSponsoring
  | endSponsoringFutureReserves => .endSponsoring
  | revokeSponsorship => .revokeSponsorship
  | clawback => .clawback
  | clawbackClaimableBalance => .clawbackClaimableBalance
  | setTrustLineFlags => .setTrustLineFlags
  | liquidityPoolDeposit => .poolDeposit
  | liquidityPoolWithdraw => .poolWithdraw
  | invokeHostFunction => .invokeHostFunction
  | extendFootprintTtl => .footprint
  | restoreFootprint => .footprint

/-- The codes of the outcomes of a kind. -/
def codes (kind : OperationKind) : List Record.ResultCode :=
  successCode :: kind.failures.codes

/-- No two codes of a kind have one number. -/
theorem nodup_numbers (kind : OperationKind) : (kind.codes.map (·.code)).Nodup := by
  cases kind <;> decide

/-- No two codes of a kind have one name. -/
theorem nodup_names (kind : OperationKind) : (kind.codes.map (·.name)).Nodup := by
  cases kind <;> decide

theorem negatable_failures (kind : OperationKind) : kind.failures.Negatable := by
  cases kind <;> decide

end OperationKind

/-! ### Failures -/

section Failures

variable {table : FailureTable} (failure : Failure table)

theorem Failure.code_mem_codes : failure.code ∈ table.codes :=
  List.mem_map.mpr ⟨table.get failure.index, List.get_mem table failure.index, rfl⟩

/-- A negated number stands in an encoding as its complement. -/
theorem toNat_ofInt_neg {n : Nat} (hpos : 0 < n) (hle : n ≤ 0x80000000) :
    (Int32.ofInt (-n)).toUInt32.toNat = negative n := by
  rw [← Int32.toNat_toBitVec, Int32.toBitVec_ofInt, BitVec.toNat_ofInt, negative]
  omega

theorem Failure.toNat_code (htable : table.Negatable) :
    failure.code.code.toUInt32.toNat = negative failure.number := by
  obtain ⟨hpos, hle⟩ := htable _ (List.get_mem table failure.index)
  exact toNat_ofInt_neg hpos hle

theorem Failure.name_code_ne {name : String} (h : name ∉ table.codes.map (·.name)) :
    failure.code.name ≠ name := by
  rintro rfl
  exact h (List.mem_map_of_mem failure.code_mem_codes)

end Failures

/-! ### Outcomes -/

section Outcomes

variable {σ : Type} {table : FailureTable}

theorem Outcome.code_mem_codes (outcome : Outcome σ table) :
    outcome.code ∈ successCode :: table.codes := by
  cases outcome with
  | success payload => exact List.mem_cons_self
  | failure failure => exact List.mem_cons_of_mem _ failure.code_mem_codes

theorem PathOutcome.code_mem_codes (outcome : PathOutcome PathSuccess table) :
    outcome.render.code ∈ successCode :: table.withIssuer.codes := by
  cases outcome with
  | success payload => exact List.mem_cons_self
  | noIssuer asset => exact List.mem_cons_of_mem _ List.mem_cons_self
  | failure failure =>
      exact List.mem_cons_of_mem _ (List.mem_cons_of_mem _ failure.code_mem_codes)

/-- The encoding of an outcome begins with its code. -/
theorem Outcome.begins (success : Xdr.Codec σ) (htable : table.Negatable) (o : Outcome σ table) :
    (outcome success table).Begins o [o.code.code] := by
  cases o with
  | success payload => exact ⟨success.encode payload, rfl⟩
  | failure failure =>
      exact ⟨[], congrArg (BigEndian.write 4 · []) (failure.toNat_code htable).symm⟩

theorem PathOutcome.begins (success : Xdr.Codec PathSuccess)
    (htable : table.withIssuer.Negatable) (o : PathOutcome PathSuccess table) :
    (pathOutcome success table).Begins o [o.render.code.code] := by
  cases o with
  | success payload => exact ⟨success.encode payload, rfl⟩
  | noIssuer asset => exact ⟨Asset.layout.encode asset, rfl⟩
  | failure failure =>
      have hcode := failure.toNat_code (List.forall_mem_of_forall_mem_cons htable)
      exact ⟨[], congrArg (BigEndian.write 4 · []) hcode.symm⟩

/-- Only the code of a success carries what a success reports. -/
theorem Outcome.isSome_payload?_iff
    (hnames : ((successCode :: table.codes).map (·.name)).Nodup) (outcome : Outcome σ table) :
    outcome.payload?.isSome ↔ outcome.code.name = "Success" := by
  cases outcome with
  | success payload => exact iff_of_true rfl rfl
  | failure failure =>
      exact iff_of_false nofun (failure.name_code_ne (List.nodup_cons.mp hnames).1)

theorem Outcome.isSome_map_payload?_iff {β : Type} {build : σ → β}
    (hnames : ((successCode :: table.codes).map (·.name)).Nodup) (outcome : Outcome σ table) :
    (outcome.payload?.map build).isSome ↔ outcome.code.name = "Success" := by
  rw [Option.isSome_map, isSome_payload?_iff hnames]

end Outcomes

namespace OperationOutcome

theorem code_mem_codes (outcome : OperationOutcome) :
    outcome.render.code ∈ outcome.kind.codes := by
  cases outcome with
  | pathPaymentStrictReceive o => exact o.code_mem_codes
  | pathPaymentStrictSend o => exact o.code_mem_codes
  | _ o => exact o.code_mem_codes

/-- Behind the number of the kind stands the encoding of its own outcome. -/
theorem begins_of_encode {α : Type} {codec : Xdr.Codec α} {o : α} {outcome : OperationOutcome}
    {n : Int32} (hencode : layout.encode outcome =
      BigEndian.write 4 outcome.kind.code (codec.encode o)) (h : codec.Begins o [n]) :
    layout.Begins outcome [Int32.ofNat outcome.kind.code, n] := by
  obtain ⟨rest, hrest⟩ := h
  have hkind : (Int32.ofNat outcome.kind.code).toUInt32.toNat = outcome.kind.code := by
    cases outcome.kind <;> rfl
  refine ⟨rest, ?_⟩
  rw [hencode, hrest]
  exact congrArg (BigEndian.write 4 · _) hkind.symm

theorem begins (outcome : OperationOutcome) :
    layout.Begins outcome [Int32.ofNat outcome.kind.code, outcome.render.code.code] := by
  -- In every case the failures of the kind are the table of the outcome, by unfolding.
  have htable := outcome.kind.negatable_failures
  cases outcome with
  | pathPaymentStrictReceive o => exact begins_of_encode rfl (o.begins PathSuccess.layout htable)
  | pathPaymentStrictSend o => exact begins_of_encode rfl (o.begins PathSuccess.layout htable)
  | _ o => exact begins_of_encode rfl (o.begins _ htable)

end OperationOutcome

end Protocol

/-! ## Payloads -/

namespace Record

/-- What the codes of a payment through a path carry is shown under them alone. -/
structure PathResult.CarriesByCode (result : PathResult) : Prop where
  success : result.success.isSome ↔ result.code.name = "Success"
  noIssuer : result.noIssuer.isSome ↔ result.code.name = "NoIssuer"
  apart : ¬ (result.success.isSome ∧ result.noIssuer.isSome)

namespace OperationOutcome

/-- What some codes of a kind carry is shown under them alone. -/
def CarriesByCode : OperationOutcome → Prop
  | .pathPaymentStrictReceive result => result.CarriesByCode
  | .manageSellOffer result => result.success.isSome ↔ result.code.name = "Success"
  | .createPassiveSellOffer result => result.success.isSome ↔ result.code.name = "Success"
  | .accountMerge result => result.balance.isSome ↔ result.code.name = "Success"
  | .inflation result => result.payouts.isSome ↔ result.code.name = "Success"
  | .manageBuyOffer result => result.success.isSome ↔ result.code.name = "Success"
  | .pathPaymentStrictSend result => result.CarriesByCode
  | .createClaimableBalance result => result.balance.isSome ↔ result.code.name = "Success"
  | .invokeHostFunction result => result.success.isSome ↔ result.code.name = "Success"
  | _ => True

/-- The exchanges that are shown. -/
def claims : OperationOutcome → List ClaimAtom
  | .pathPaymentStrictReceive result => result.success.elim [] (·.offers)
  | .manageSellOffer result => result.success.elim [] (·.claimed)
  | .createPassiveSellOffer result => result.success.elim [] (·.claimed)
  | .manageBuyOffer result => result.success.elim [] (·.claimed)
  | .pathPaymentStrictSend result => result.success.elim [] (·.offers)
  | _ => []

/-- The payouts that are shown. -/
def payouts : OperationOutcome → List InflationPayout
  | .inflation result => result.payouts.getD []
  | _ => []

end OperationOutcome

end Record

namespace Protocol

theorem PathOutcome.carriesByCode_render {table : FailureTable}
    (hnames : ((successCode :: table.withIssuer.codes).map (·.name)).Nodup)
    (outcome : PathOutcome PathSuccess table) : outcome.render.CarriesByCode := by
  cases outcome with
  | success payload =>
      constructor
      · exact iff_of_true rfl rfl
      · exact iff_of_false nofun (by decide : "Success" ≠ "NoIssuer")
      · nofun
  | noIssuer asset =>
      constructor
      · exact iff_of_false nofun (by decide : "NoIssuer" ≠ "Success")
      · exact iff_of_true rfl rfl
      · nofun
  | failure failure =>
      obtain ⟨hsuccess, hnames⟩ := List.nodup_cons.mp hnames
      obtain ⟨hissuer, -⟩ := List.nodup_cons.mp hnames
      constructor
      · refine iff_of_false nofun (failure.name_code_ne fun hmem => ?_)
        exact hsuccess (List.mem_cons_of_mem _ hmem)
      · exact iff_of_false nofun (failure.name_code_ne hissuer)
      · nofun

namespace OperationOutcome

theorem carriesByCode_render (outcome : OperationOutcome) : outcome.render.CarriesByCode := by
  have hnames := outcome.kind.nodup_names
  cases outcome with
  | pathPaymentStrictReceive o => exact o.carriesByCode_render hnames
  | manageSellOffer o => exact o.isSome_map_payload?_iff hnames
  | createPassiveSellOffer o => exact o.isSome_map_payload?_iff hnames
  | accountMerge o => exact o.isSome_payload?_iff hnames
  | inflation o => exact o.isSome_map_payload?_iff hnames
  | manageBuyOffer o => exact o.isSome_map_payload?_iff hnames
  | pathPaymentStrictSend o => exact o.carriesByCode_render hnames
  | createClaimableBalance o => exact o.isSome_map_payload?_iff hnames
  | invokeHostFunction o => exact o.isSome_payload?_iff hnames
  | _ => trivial

/-- The exchanges that an outcome reports. -/
def claims : OperationOutcome → List ClaimAtom
  | .pathPaymentStrictReceive (.success payload) => payload.offers
  | .manageSellOffer (.success payload) => payload.claimed
  | .createPassiveSellOffer (.success payload) => payload.claimed
  | .manageBuyOffer (.success payload) => payload.claimed
  | .pathPaymentStrictSend (.success payload) => payload.offers
  | _ => []

/-- The payouts that an outcome reports. -/
def payouts : OperationOutcome → List InflationPayout
  | .inflation (.success payouts) => payouts
  | _ => []

theorem claims_render (outcome : OperationOutcome) :
    outcome.render.claims = outcome.claims.map (·.render) := by
  cases outcome with
  | pathPaymentStrictReceive o => cases o <;> rfl
  | manageSellOffer o => cases o <;> rfl
  | createPassiveSellOffer o => cases o <;> rfl
  | manageBuyOffer o => cases o <;> rfl
  | pathPaymentStrictSend o => cases o <;> rfl
  | _ => rfl

theorem payouts_render (outcome : OperationOutcome) :
    outcome.render.payouts = outcome.payouts.map (·.render) := by
  cases outcome with
  | inflation o => cases o <;> rfl
  | _ => rfl

end OperationOutcome

end Protocol

/-! ## Results -/

namespace Record

/-- The record of an outcome shows its kind, the code in its encoding by number and name, and what
the code carries. -/
structure OperationOutcome.Shows (outcome : Protocol.OperationOutcome) (record : OperationOutcome) :
    Prop where
  kind : record.kind = outcome.kind
  code (code : ResultCode) : record.code = code ↔
    code ∈ outcome.kind.codes ∧ Protocol.OperationOutcome.layout.Begins outcome
      [Int32.ofNat outcome.kind.code, code.code]
  payload : record.CarriesByCode
  claims : record.claims = outcome.claims.map (·.render)
  payouts : record.payouts = outcome.payouts.map (·.render)

/-- The record of a result shows the outcome of an operation that was carried out, and no other
operation succeeded. -/
structure OperationResult.Shows (result : Protocol.OperationResult) (record : OperationResult) :
    Prop where
  body : record.body.isSome ↔ ∃ outcome, result = .inner outcome
  name : record.body.isSome ↔ record.code.name = "OpInner"
  outcome (outcome : Protocol.OperationOutcome) : result = .inner outcome →
    ∃ shown, record.body = some shown ∧ shown.Shows outcome
  success : record.isSuccess = true ↔ ∃ outcome, result = .inner outcome ∧
    Protocol.OperationOutcome.layout.Begins outcome [Int32.ofNat outcome.kind.code, 0]

end Record

namespace Protocol

theorem OperationOutcome.begins_iff {outcome : OperationOutcome} {n : Int32} :
    layout.Begins outcome [Int32.ofNat outcome.kind.code, n] ↔ outcome.render.code.code = n := by
  constructor
  · intro h
    have hwords := outcome.begins.unique h rfl
    exact (List.cons.inj (List.cons.inj hwords).2).1
  · rintro rfl
    exact outcome.begins

theorem OperationOutcome.shows_render (outcome : OperationOutcome) :
    outcome.render.Shows outcome where
  kind := outcome.kind_render
  code code := by
    rw [begins_iff]
    constructor
    · rintro rfl
      exact ⟨outcome.code_mem_codes, rfl⟩
    · rintro ⟨hmem, hnumber⟩
      exact List.inj_on_of_nodup_map outcome.kind.nodup_numbers outcome.code_mem_codes hmem hnumber
  payload := outcome.carriesByCode_render
  claims := outcome.claims_render
  payouts := outcome.payouts_render

end Protocol

/-- The record of a result shows an outcome just if the operation was carried out: with the kind,
the code and the lists of the outcome, and with a payload just if the code carries one. -/
theorem results_shown_by_code {operation : Protocol.OperationKind}
    {result : Protocol.OperationResult} {record : Record.OperationResult}
    (h : result.render operation = .ok record) : record.Shows result := by
  cases result with
  | inner outcome =>
      rw [Protocol.OperationResult.render] at h
      split at h
      · cases h
        constructor
        · exact iff_of_true rfl ⟨outcome, rfl⟩
        · exact iff_of_true rfl rfl
        · rintro _ ⟨⟩
          exact ⟨outcome.render, rfl, outcome.shows_render⟩
        · show (outcome.render.code.code == 0) = true ↔ _
          rw [beq_iff_eq, ← Protocol.OperationOutcome.begins_iff]
          constructor
          · exact fun h => ⟨outcome, rfl, h⟩
          · rintro ⟨_, ⟨⟩, h⟩
            exact h
      · cases h
  | rejected failure =>
      -- Without a body there is nothing to show, so it remains that no outcome was there.
      cases h
      have hother (outcome : Protocol.OperationOutcome) :
          Protocol.OperationResult.rejected failure ≠ .inner outcome := by
        intro hresult
        cases hresult
      constructor
      · refine iff_of_false Bool.false_ne_true ?_
        rintro ⟨outcome, hresult⟩
        exact hother outcome hresult
      · exact iff_of_false Bool.false_ne_true (failure.name_code_ne (by decide))
      · exact fun outcome hresult => absurd hresult (hother outcome)
      · refine iff_of_false Bool.false_ne_true ?_
        rintro ⟨outcome, hresult, -⟩
        exact hother outcome hresult

/-- A payment with two exchanges is shown with both, one that finds no issuer with the asset, and
an inflation without payouts with an empty list. -/
theorem payments_and_inflation_shown :
    let exchange (amount : Int64) : Protocol.ClaimAtom :=
      .liquidityPool ⟨⟨.zero 32⟩, .native, amount, .native, amount⟩
    let paid : Protocol.OperationResult := .inner (.pathPaymentStrictSend
      (.success ⟨[exchange 1, exchange 2], ⟨⟨.zero 32⟩, .native, 2⟩⟩))
    let refused : Protocol.OperationResult := .inner (.pathPaymentStrictSend (.noIssuer .native))
    let inflated : Protocol.OperationResult := .inner (.inflation (.success []))
    ∃ record record' record'', paid.render .pathPaymentStrictSend = .ok record ∧
      refused.render .pathPaymentStrictSend = .ok record' ∧
      inflated.render .inflation = .ok record'' ∧
      record.Shows paid ∧ record'.Shows refused ∧ record''.Shows inflated ∧
      record.body.map (·.claims.length) = some 2 ∧
      record'.body = some (.pathPaymentStrictSend ⟨⟨-9, "NoIssuer"⟩, none, some .native⟩) ∧
      record''.body = some (.inflation ⟨⟨0, "Success"⟩, some []⟩) := by
  intro exchange paid refused inflated
  have hpaid : paid.render .pathPaymentStrictSend = .ok _ := rfl
  have hrefused : refused.render .pathPaymentStrictSend = .ok _ := rfl
  have hinflated : inflated.render .inflation = .ok _ := rfl
  exact ⟨_, _, _, hpaid, hrefused, hinflated, results_shown_by_code hpaid,
    results_shown_by_code hrefused, results_shown_by_code hinflated, rfl, rfl, rfl⟩

end LedgerExport
