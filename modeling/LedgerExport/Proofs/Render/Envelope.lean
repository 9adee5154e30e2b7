import LedgerExport.Proofs.Render.Operation
import LedgerExport.Render.Envelope

/-!
# Envelopes are known by what is shown of them

A transaction of the oldest kind is shown in its current form, which it
determines, and its envelope still shows the kind. So no two envelopes of
well-formed text are shown alike.
-/

namespace LedgerExport.Protocol

attribute [ext] TimeBounds LedgerBounds PreconditionsV2 DecoratedSignature Transaction TransactionV0 SignedTransactionV0
  SignedTransaction FeeBump SignedFeeBump

/-! ## Memos, preconditions and signatures -/

def Memo.Legible : Memo → Prop
  | .text t => Utf8.WellFormed t
  | _ => True

theorem Memo.render_injOn : Set.InjOn Memo.render {m | m.Legible} := by
  intro m hm m' hm' h
  cases m with
  | none =>
      cases m' with
      | none => rfl
      | _ => cases h
  | text t =>
      cases m' with
      | text t' => rw [Utf8.lossy_injOn hm hm' (Record.Memo.text.inj h)]
      | _ => cases h
  | id n =>
      cases m' with
      | id n' => rw [Record.Memo.id.inj h]
      | _ => cases h
  | hash hash =>
      cases m' with
      | hash hash' => rw [Record.Memo.hash.inj h]
      | _ => cases h
  | returnHash hash =>
      cases m' with
      | returnHash hash' => rw [Record.Memo.returnHash.inj h]
      | _ => cases h

theorem TimeBounds.render_injective : Function.Injective TimeBounds.render := by
  intro p p' h
  obtain ⟨hminTime, hmaxTime⟩ := Record.TimeBounds.mk.inj h
  exact TimeBounds.ext hminTime hmaxTime

theorem LedgerBounds.render_injective : Function.Injective LedgerBounds.render := by
  intro p p' h
  obtain ⟨hminLedger, hmaxLedger⟩ := Record.LedgerBounds.mk.inj h
  exact LedgerBounds.ext hminLedger hmaxLedger

theorem PreconditionsV2.render_injective : Function.Injective PreconditionsV2.render := by
  intro p p' h
  obtain ⟨htimeBounds, hledgerBounds, hminSequence, hage, hgap, hextraSigners⟩ :=
    Record.PreconditionsV2.mk.inj h
  exact PreconditionsV2.ext (Option.map_injective TimeBounds.render_injective htimeBounds)
    (Option.map_injective LedgerBounds.render_injective hledgerBounds) hminSequence hage hgap
    (List.map_injective_iff.mpr SignerKey.render_injective hextraSigners)

theorem Preconditions.render_injective : Function.Injective Preconditions.render := by
  intro p p' h
  cases p with
  | none =>
      cases p' with
      | none => rfl
      | _ => cases h
  | time bounds =>
      cases p' with
      | time bounds' => rw [TimeBounds.render_injective (Record.Preconditions.time.inj h)]
      | _ => cases h
  | v2 conditions =>
      cases p' with
      | v2 conditions' =>
          rw [PreconditionsV2.render_injective (Record.Preconditions.v2.inj h)]
      | _ => cases h

theorem DecoratedSignature.render_injective : Function.Injective DecoratedSignature.render := by
  intro p p' h
  obtain ⟨hhint, hsignature⟩ := Record.DecoratedSignature.mk.inj h
  exact DecoratedSignature.ext (FixedBytes.ext (Hex.text_injective hhint))
    (Hex.text_injective hsignature)

theorem signatures_render_injective :
    Function.Injective (List.map DecoratedSignature.render) :=
  List.map_injective_iff.mpr DecoratedSignature.render_injective

/-! ## Transactions -/

structure Transaction.Legible (p : Transaction) : Prop where
  memo : p.memo.Legible
  operations : ∀ op ∈ p.operations, op.Legible
  soroban : ∀ data ∈ p.soroban, data.Legible

structure TransactionV0.Legible (p : TransactionV0) : Prop where
  memo : p.memo.Legible
  operations : ∀ op ∈ p.operations, op.Legible

theorem Transaction.render_injOn : Set.InjOn Transaction.render {p | p.Legible} := by
  intro p hp p' hp' h
  obtain ⟨hsource, hfee, hsequence, hpreconditions, hmemo, hoperations, hsoroban⟩ :=
    Record.Transaction.mk.inj h
  exact Transaction.ext (MuxedAccount.text_injective hsource) hfee hsequence
    (Preconditions.render_injective hpreconditions) (Memo.render_injOn hp.memo hp'.memo hmemo)
    (injOn_list_map Operation.render_injOn hp.operations hp'.operations hoperations)
    (injOn_option_map SorobanData.render_injOn hp.soroban hp'.soroban hsoroban)

namespace TransactionV0

theorem Legible.upgrade {p : TransactionV0} (h : p.Legible) : p.upgrade.Legible where
  memo := h.memo
  operations := h.operations
  soroban := nofun

/-- A transaction of the oldest kind is determined by its current form. -/
theorem upgrade_injective : Function.Injective upgrade := by
  intro p p' h
  obtain ⟨hsource, hfee, hsequence, hpreconditions, hmemo, hoperations, -⟩ := Transaction.mk.inj h
  -- Bounds that are absent become no precondition at all, which no bounds become.
  have htimeBounds : p.timeBounds = p'.timeBounds := by
    cases hbounds : p.timeBounds with
    | none =>
        cases hbounds' : p'.timeBounds with
        | none => rfl
        | some bounds' =>
            rw [hbounds, hbounds'] at hpreconditions
            cases hpreconditions
    | some bounds =>
        cases hbounds' : p'.timeBounds with
        | none =>
            rw [hbounds, hbounds'] at hpreconditions
            cases hpreconditions
        | some bounds' =>
            rw [hbounds, hbounds'] at hpreconditions
            rw [Preconditions.time.inj hpreconditions]
  exact TransactionV0.ext (MuxedAccount.plain.inj hsource) hfee hsequence htimeBounds hmemo
    hoperations

end TransactionV0

theorem SignedTransaction.render_injOn :
    Set.InjOn SignedTransaction.render {p | p.tx.Legible} := by
  intro p hp p' hp' h
  obtain ⟨htx, hsignatures⟩ := Record.SignedTransaction.mk.inj h
  exact SignedTransaction.ext (Transaction.render_injOn hp hp' htx)
    (signatures_render_injective hsignatures)

/-! ## Envelopes -/

namespace Envelope

/-- The texts of an envelope are well formed and its asset codes are plain. -/
def Legible : Envelope → Prop
  | .v0 e => e.tx.Legible
  | .v1 e => e.tx.Legible
  | .feeBump e => e.tx.inner.tx.Legible

theorem render_injOn : Set.InjOn render {e | e.Legible} := by
  intro e he e' he' h
  cases e with
  | v0 signed =>
      cases e' with
      | v0 signed' =>
          obtain ⟨htx, hsignatures⟩ := Record.SignedTransaction.mk.inj (Record.Envelope.v0.inj h)
          have htx := Transaction.render_injOn he.upgrade he'.upgrade htx
          rw [SignedTransactionV0.ext (TransactionV0.upgrade_injective htx)
            (signatures_render_injective hsignatures)]
      | _ => cases h
  | v1 signed =>
      cases e' with
      | v1 signed' => rw [SignedTransaction.render_injOn he he' (Record.Envelope.v1.inj h)]
      | _ => cases h
  | feeBump signed =>
      cases e' with
      | feeBump signed' =>
          obtain ⟨hfeeSource, hfee, hinner, hsignatures⟩ :=
            Record.FeeBump.mk.inj (Record.Envelope.feeBump.inj h)
          have htx : signed.tx = signed'.tx :=
            FeeBump.ext (MuxedAccount.text_injective hfeeSource) hfee
              (SignedTransaction.render_injOn he he' hinner)
          rw [SignedFeeBump.ext htx (signatures_render_injective hsignatures)]
      | _ => cases h

/-- Two envelopes of any kinds whose texts are well formed and whose asset codes are plain are
shown alike only if they are the same. -/
theorem shown_alike_iff_eq (a b : Envelope) (ha : a.Legible) (hb : b.Legible) :
    a.render = b.render ↔ a = b :=
  render_injOn.eq_iff ha hb

/-- Two offers with their assets swapped are shown apart. -/
theorem swapped_offers_shown_apart :
    let coin : Asset := .alphanum4 ⟨Utf8.bytes "öre", rfl⟩ ⟨.zero 32⟩
    let offer (selling buying : Asset) : Envelope :=
      .v1 ⟨⟨.plain (.zero 32), 100, 1, .none, .text (Utf8.bytes "ö"),
        [⟨none, .manageSellOffer ⟨selling, buying, 5, ⟨1, 2⟩, 0⟩⟩], none⟩, []⟩
    (offer coin .native).Legible ∧ (offer .native coin).Legible ∧
      (offer coin .native).render ≠ (offer .native coin).render := by
  intro coin offer
  have hcoin : coin.Legible := ⟨"öre", by decide, 0, rfl⟩
  have hlegible : ∀ selling buying : Asset, selling.Legible → buying.Legible →
      (offer selling buying).Legible := by
    intro selling buying hselling hbuying
    exact ⟨⟨"ö", rfl⟩, List.forall_mem_singleton.mpr ⟨hselling, hbuying⟩, nofun⟩
  have hsells := hlegible coin .native hcoin trivial
  have hbuys := hlegible .native coin trivial hcoin
  refine ⟨hsells, hbuys, fun h => ?_⟩
  have heq := (shown_alike_iff_eq _ _ hsells hbuys).mp h
  simp [offer, coin] at heq

end Envelope

end LedgerExport.Protocol
