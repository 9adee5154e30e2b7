import LedgerExport.Proofs.StrKey
import LedgerExport.Proofs.Text.WellFormed
import LedgerExport.Render.Asset

/-!
# Assets and keys are known by what is shown of them

Keys and addresses are shown by texts that determine them. An asset is shown by
the text in front of the first zero of its code, which determines the code if
only zeros come behind it; such a code is called plain. The two lengths of codes
are shown apart, except where a code stands without its issuer. Prices, liabilities
and the conditions of claims are shown part by part, at every depth.
-/

namespace LedgerExport

/-! ## Lists and options -/

section Maps

variable {α β : Type} {f : α → β} {s : Set α}

theorem injOn_list_map (hf : Set.InjOn f s) : Set.InjOn (List.map f) {l | ∀ a ∈ l, a ∈ s} := by
  intro l hl l' hl' h
  induction l generalizing l' with
  | nil => exact (List.map_eq_nil_iff.mp h.symm).symm
  | cons a l ih =>
      cases l' with
      | nil => cases h
      | cons a' l' =>
          obtain ⟨ha, hmore⟩ := List.cons.inj h
          obtain ⟨hal, hl⟩ := List.forall_mem_cons.mp hl
          obtain ⟨hal', hl'⟩ := List.forall_mem_cons.mp hl'
          rw [hf hal hal' ha, ih hl hl' hmore]

theorem option_eq_of_map_eq {o o' : Option α} (h : o.map f = o'.map f)
    (hf : ∀ a ∈ o, ∀ a' ∈ o', f a = f a' → a = a') : o = o' := by
  cases o with
  | none => exact (Option.map_eq_none_iff.mp h.symm).symm
  | some a =>
      cases o' with
      | none => cases h
      | some a' => rw [hf a rfl a' rfl (Option.some.inj h)]

theorem injOn_option_map (hf : Set.InjOn f s) :
    Set.InjOn (Option.map f) {o | ∀ a ∈ o, a ∈ s} :=
  fun _ ho _ ho' h => option_eq_of_map_eq h fun a ha a' ha' => hf (ho a ha) (ho' a' ha')

end Maps

namespace Protocol

attribute [ext] Signer Claimant PoolParameters Price Liabilities

/-! ## Keys and addresses -/

theorem SignerKey.render_injective : Function.Injective SignerKey.render := by
  intro key key' h
  cases key with
  | ed25519 key =>
      cases key' with
      | ed25519 key' => rw [keyText_injective (Record.SignerKey.ed25519.inj h)]
      | _ => cases h
  | preAuthTx hash =>
      cases key' with
      | preAuthTx hash' =>
          have hbytes := (StrKey.encode_inj.mp (Record.SignerKey.preAuthTx.inj h)).2
          rw [FixedBytes.ext hbytes]
      | _ => cases h
  | hashX hash =>
      cases key' with
      | hashX hash' =>
          have hbytes := (StrKey.encode_inj.mp (Record.SignerKey.hashX.inj h)).2
          rw [FixedBytes.ext hbytes]
      | _ => cases h
  | signedPayload signer =>
      cases key' with
      | signedPayload signer' =>
          obtain ⟨-, hkey, hpayload⟩ := Record.SignerKey.signedPayload.inj h
          obtain ⟨key, payload⟩ := signer
          obtain ⟨key', payload'⟩ := signer'
          exact congrArg SignerKey.signedPayload
            (congrArg₂ SignedPayload.mk (keyText_injective hkey) (Hex.text_injective hpayload))
      | _ => cases h

/-- The kind of an address is shown, so that a balance is not taken for a pool. -/
theorem ScAddress.render_injective : Function.Injective ScAddress.render := by
  intro address address' h
  cases address with
  | account id =>
      cases address' with
      | account id' => rw [AccountId.text_injective (Record.ScAddress.account.inj h)]
      | _ => cases h
  | contract id =>
      cases address' with
      | contract id' => rw [ContractId.text_injective (Record.ScAddress.contract.inj h)]
      | _ => cases h
  | muxedAccount key =>
      cases address' with
      | muxedAccount key' => rw [MuxedKey.text_injective (Record.ScAddress.muxedAccount.inj h)]
      | _ => cases h
  | claimableBalance id =>
      cases address' with
      | claimableBalance id' =>
          rw [BalanceId.text_injective (Record.ScAddress.claimableBalance.inj h)]
      | _ => cases h
  | liquidityPool id =>
      cases address' with
      | liquidityPool id' => rw [PoolId.text_injective (Record.ScAddress.liquidityPool.inj h)]
      | _ => cases h

theorem Signer.render_injective : Function.Injective Signer.render := by
  intro p p' h
  obtain ⟨hkey, hweight⟩ := Record.Signer.mk.inj h
  exact Signer.ext (SignerKey.render_injective hkey) hweight

/-! ## Prices and predicates -/

theorem Price.render_injective : Function.Injective Price.render := by
  intro p p' h
  obtain ⟨hn, hd⟩ := Record.Price.mk.inj h
  exact Price.ext hn hd

theorem Liabilities.render_injective : Function.Injective Liabilities.render := by
  intro p p' h
  obtain ⟨hbuying, hselling⟩ := Record.Liabilities.mk.inj h
  exact Liabilities.ext hbuying hselling

namespace ClaimPredicate

mutual

theorem eq_of_render_eq (a b : ClaimPredicate) (h : a.render = b.render) : a = b := by
  match a, b with
  | .unconditional, .unconditional => rfl
  | .and parts, .and parts' =>
      rw [eq_of_renderAll_eq parts parts' (Record.ClaimPredicate.and.inj h)]
  | .or parts, .or parts' =>
      rw [eq_of_renderAll_eq parts parts' (Record.ClaimPredicate.or.inj h)]
  | .not none, .not none => rfl
  | .not (some part), .not (some part') =>
      rw [eq_of_render_eq part part' (Option.some.inj (Record.ClaimPredicate.not.inj h))]
  | .beforeAbsoluteTime time, .beforeAbsoluteTime time' =>
      rw [Record.ClaimPredicate.beforeAbsoluteTime.inj h]
  | .beforeRelativeTime time, .beforeRelativeTime time' =>
      rw [Record.ClaimPredicate.beforeRelativeTime.inj h]

theorem eq_of_renderAll_eq (parts parts' : List ClaimPredicate)
    (h : renderAll parts = renderAll parts') : parts = parts' := by
  match parts, parts' with
  | [], [] => rfl
  | [], _ :: _ => cases h
  | _ :: _, [] => cases h
  | part :: parts, part' :: parts' =>
      obtain ⟨hpart, hparts⟩ := List.cons.inj h
      rw [eq_of_render_eq part part' hpart, eq_of_renderAll_eq parts parts' hparts]

end

theorem render_injective : Function.Injective render :=
  eq_of_render_eq

end ClaimPredicate

theorem Claimant.render_injective : Function.Injective Claimant.render := by
  intro p p' h
  obtain ⟨hdestination, hpredicate⟩ := Record.Claimant.mk.inj h
  exact Claimant.ext (AccountId.text_injective hdestination)
    (ClaimPredicate.render_injective hpredicate)

/-! ## Codes -/

/-- A code spells a text: the bytes of the text, none of them zero, and then only zeros. -/
structure CodeSpells (code : Octets) (text : String) : Prop where
  nonzero : 0 ∉ Utf8.bytes text
  filled : ∃ zeros, code = Utf8.bytes text ++ List.replicate zeros 0

/-- A code is plain if it spells some text. -/
def PlainCode (code : Octets) : Prop :=
  ∃ text, CodeSpells code text

theorem CodeSpells.codeText_eq {code : Octets} {text : String} (h : CodeSpells code text) :
    codeText code = text := by
  obtain ⟨hnonzero, zeros, rfl⟩ := h
  have hbytes : ∀ b ∈ Utf8.bytes text, (b != 0) = true := by
    intro b hb
    rw [bne_iff_ne]
    rintro rfl
    exact hnonzero hb
  rw [codeText, codeBytes, List.takeWhile_append_of_pos hbytes, List.takeWhile_replicate]
  simp [Utf8.lossy_bytes]

/-- Plain codes of the same length that are shown alike are the same. -/
theorem codeText_injOn (n : Nat) :
    Set.InjOn (fun code : FixedBytes n => codeText code.bytes) {code | PlainCode code.bytes} := by
  rintro code ⟨text, hcode⟩ code' ⟨text', hcode'⟩ h
  have htext : text = text' := by
    rw [← hcode.codeText_eq, ← hcode'.codeText_eq]
    exact h
  subst htext
  obtain ⟨zeros, hbytes⟩ := hcode.filled
  obtain ⟨zeros', hbytes'⟩ := hcode'.filled
  have hlength := code.length_bytes.trans code'.length_bytes.symm
  rw [hbytes, hbytes', List.length_append, List.length_append, List.length_replicate,
    List.length_replicate] at hlength
  apply FixedBytes.ext
  rw [hbytes, hbytes', Nat.add_left_cancel hlength]

/-- A code without an issuer is legible if it is plain, and a longer one only if its text does
not fit into a shorter one. -/
def AssetCode.Legible : AssetCode → Prop
  | .alphanum4 code => PlainCode code.bytes
  | .alphanum12 code => ∃ text, CodeSpells code.bytes text ∧ 5 ≤ (Utf8.bytes text).length

theorem CodeSpells.length_le {code : Octets} {text : String} (h : CodeSpells code text) :
    (Utf8.bytes text).length ≤ code.length := by
  obtain ⟨-, zeros, rfl⟩ := h
  rw [List.length_append]
  exact Nat.le_add_right _ _

theorem codeText_short_ne_long {code code' : Octets} {text : String} (hlength : code.length = 4)
    (hcode : PlainCode code) (hcode' : CodeSpells code' text)
    (hlong : 5 ≤ (Utf8.bytes text).length) : codeText code ≠ codeText code' := by
  obtain ⟨text', hspells⟩ := hcode
  rw [hspells.codeText_eq, hcode'.codeText_eq]
  rintro rfl
  have hle := hspells.length_le
  omega

theorem AssetCode.text_injOn : Set.InjOn AssetCode.text {code | code.Legible} := by
  intro code hcode code' hcode' h
  cases code with
  | alphanum4 bytes =>
      cases code' with
      | alphanum4 bytes' => rw [codeText_injOn 4 hcode hcode' h]
      | alphanum12 bytes' =>
          obtain ⟨text, hspells, hlong⟩ := hcode'
          exact absurd h (codeText_short_ne_long bytes.length_bytes hcode hspells hlong)
  | alphanum12 bytes =>
      obtain ⟨text, hspells, hlong⟩ := hcode
      cases code' with
      | alphanum4 bytes' =>
          exact absurd h.symm (codeText_short_ne_long bytes'.length_bytes hcode' hspells hlong)
      | alphanum12 bytes' =>
          obtain ⟨text', hspells', -⟩ := hcode'
          rw [codeText_injOn 12 ⟨text, hspells⟩ ⟨text', hspells'⟩ h]

/-! ## Assets -/

/-- An asset is legible if its code is plain. -/
def Asset.Legible : Asset → Prop
  | .native => True
  | .alphanum4 code _ => PlainCode code.bytes
  | .alphanum12 code _ => PlainCode code.bytes

def TrustLineAsset.Legible : TrustLineAsset → Prop
  | .asset a => a.Legible
  | .poolShare _ => True

structure PoolParameters.Legible (p : PoolParameters) : Prop where
  assetA : p.assetA.Legible
  assetB : p.assetB.Legible

def ChangeTrustAsset.Legible : ChangeTrustAsset → Prop
  | .asset a => a.Legible
  | .poolShare pool => pool.Legible

theorem Asset.render_injOn : Set.InjOn Asset.render {a | a.Legible} := by
  intro asset hasset asset' hasset' h
  cases asset with
  | native =>
      cases asset' with
      | native => rfl
      | _ => cases h
  | alphanum4 code issuer =>
      cases asset' with
      | alphanum4 code' issuer' =>
          obtain ⟨hcode, hissuer⟩ := Record.Asset.alphanum4.inj h
          rw [codeText_injOn 4 hasset hasset' hcode, AccountId.text_injective hissuer]
      | _ => cases h
  | alphanum12 code issuer =>
      cases asset' with
      | alphanum12 code' issuer' =>
          obtain ⟨hcode, hissuer⟩ := Record.Asset.alphanum12.inj h
          rw [codeText_injOn 12 hasset hasset' hcode, AccountId.text_injective hissuer]
      | _ => cases h

theorem TrustLineAsset.render_injOn : Set.InjOn TrustLineAsset.render {a | a.Legible} := by
  intro asset hasset asset' hasset' h
  cases asset with
  | asset a =>
      cases asset' with
      | asset a' => rw [Asset.render_injOn hasset hasset' (Record.TrustLineAsset.asset.inj h)]
      | poolShare pool' => cases h
  | poolShare pool =>
      cases asset' with
      | asset a' => cases h
      | poolShare pool' => rw [PoolId.text_injective (Record.TrustLineAsset.poolShare.inj h)]

theorem PoolParameters.render_injOn : Set.InjOn PoolParameters.render {p | p.Legible} := by
  intro p hp p' hp' h
  obtain ⟨hassetA, hassetB, hfee⟩ := Record.PoolParameters.mk.inj h
  exact PoolParameters.ext (Asset.render_injOn hp.assetA hp'.assetA hassetA)
    (Asset.render_injOn hp.assetB hp'.assetB hassetB) hfee

theorem ChangeTrustAsset.render_injOn : Set.InjOn ChangeTrustAsset.render {a | a.Legible} := by
  intro asset hasset asset' hasset' h
  cases asset with
  | asset a =>
      cases asset' with
      | asset a' => rw [Asset.render_injOn hasset hasset' (Record.ChangeTrustAsset.asset.inj h)]
      | poolShare pool' => cases h
  | poolShare pool =>
      cases asset' with
      | asset a' => cases h
      | poolShare pool' =>
          rw [PoolParameters.render_injOn hasset hasset' (Record.ChangeTrustAsset.poolShare.inj h)]

end Protocol

end LedgerExport
