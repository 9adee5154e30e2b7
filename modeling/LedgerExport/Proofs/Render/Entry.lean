import LedgerExport.Proofs.Render.ScVal
import LedgerExport.Proofs.Render.Setting
import LedgerExport.Render.Entry

/-!
# Changes of entries are known by what is shown of them

An entry is shown without the nesting of its extensions, and yet the fields that
are there say how far the extensions went. One thing is lost: whether an entry
that nobody sponsors has the extension that would name a sponsor.
-/

namespace LedgerExport.Protocol

attribute [ext] SequenceAge Sponsorship AccountExtension AccountEntry PoolUse TrustLineExtension
  TrustLineEntry OfferEntry DataEntry BalanceEntry PoolState PoolEntry ContractDataEntry CostInputs
  CodeEntry TtlEntry EntryExtension LedgerEntry

/-! ## Accounts -/

theorem renderThresholds_injective : Function.Injective renderThresholds := by
  intro thresholds thresholds' h
  match thresholds, thresholds' with
  | ⟨[_, _, _, _], _⟩, ⟨[_, _, _, _], _⟩ =>
      obtain ⟨rfl, rfl, rfl, rfl⟩ := Record.Thresholds.mk.inj h
      rfl

/-! An extension laid open is the same if all that it adds is. -/

theorem SequenceAge.eq_of_parts {age age' : Option SequenceAge}
    (hledger : age.map (·.ledger) = age'.map (·.ledger))
    (htime : age.map (·.time) = age'.map (·.time)) : age = age' := by
  refine option_eq_of_map_eq hledger ?_
  rintro a rfl a' rfl hledger
  exact SequenceAge.ext hledger (Option.some.inj htime)

theorem Sponsorship.eq_of_parts {s s' : Option Sponsorship}
    (hsponsored : s.map (·.sponsored) = s'.map (·.sponsored))
    (hsponsoring : s.map (·.sponsoring) = s'.map (·.sponsoring))
    (hsigners : (s.map fun p => p.signerSponsors.map fun id => id.map (·.text)) =
      s'.map fun p => p.signerSponsors.map fun id => id.map (·.text))
    (hage : s.bind (·.age) = s'.bind (·.age)) : s = s' := by
  refine option_eq_of_map_eq hsponsored ?_
  rintro p rfl p' rfl hsponsored
  have htext := List.map_injective_iff.mpr (Option.map_injective AccountId.text_injective)
  exact Sponsorship.ext hsponsored (Option.some.inj hsponsoring)
    (htext (Option.some.inj hsigners)) hage

theorem AccountExtension.eq_of_parts {e e' : Option AccountExtension}
    (hliabilities : e.map (·.liabilities.render) = e'.map (·.liabilities.render))
    (hsponsorship : e.bind (·.sponsorship) = e'.bind (·.sponsorship)) : e = e' := by
  refine option_eq_of_map_eq hliabilities ?_
  rintro x rfl x' rfl hliabilities
  exact AccountExtension.ext (Liabilities.render_injective hliabilities) hsponsorship

namespace AccountEntry

/-- The home domain of an account is well-formed text. -/
def Legible (p : AccountEntry) : Prop :=
  Utf8.WellFormed p.homeDomain

theorem render_injOn : Set.InjOn render {p | p.Legible} := by
  intro p hp p' hp' h
  obtain ⟨haccount, hbalance, hsequence, hsubEntries, hinflationDest, hflags, hhomeDomain,
    hthresholds, hsigners, hliabilities, hsponsored, hsponsoring, hsignerSponsors,
    hledger, htime⟩ := Record.AccountEntry.mk.inj h
  -- The fields of one level tell whether it is there, and what is below it follows in the same way.
  have hextension : p.extension = p'.extension :=
    AccountExtension.eq_of_parts hliabilities
      (Sponsorship.eq_of_parts hsponsored hsponsoring hsignerSponsors
        (SequenceAge.eq_of_parts hledger htime))
  exact AccountEntry.ext (AccountId.text_injective haccount) hbalance hsequence hsubEntries
    (Option.map_injective AccountId.text_injective hinflationDest) hflags
    (Utf8.lossy_injOn hp hp' hhomeDomain) (renderThresholds_injective hthresholds)
    (List.map_injective_iff.mpr Signer.render_injective hsigners) hextension

/-- How many extensions an account has. -/
def level (p : AccountEntry) : Nat :=
  match p.extension with
  | none => 0
  | some e =>
    match e.sponsorship with
    | none => 1
    | some s => if s.age.isSome then 3 else 2

/-- The fields that are there say how many extensions there are. -/
structure ShowsLevel (p : Record.AccountEntry) (level : Nat) : Prop where
  liabilities : p.liabilities.isSome ↔ 1 ≤ level
  sponsored : p.sponsored.isSome ↔ 2 ≤ level
  sponsoring : p.sponsoring.isSome ↔ 2 ≤ level
  signerSponsors : p.signerSponsors.isSome ↔ 2 ≤ level
  sequenceLedger : p.sequenceLedger.isSome ↔ 3 ≤ level
  sequenceTime : p.sequenceTime.isSome ↔ 3 ≤ level

theorem showsLevel_render (p : AccountEntry) : ShowsLevel p.render p.level := by
  obtain ⟨_, _, _, _, _, _, _, _, _, extension⟩ := p
  match extension with
  | none => constructor <;> simp [render, level]
  | some ⟨_, none⟩ => constructor <;> simp [render, level]
  | some ⟨_, some ⟨_, _, _, none⟩⟩ => constructor <;> simp [render, level]
  | some ⟨_, some ⟨_, _, _, some _⟩⟩ => constructor <;> simp [render, level]

end AccountEntry

/-! ## Trust lines -/

theorem TrustLineExtension.eq_of_parts {e e' : Option TrustLineExtension}
    (hliabilities : e.map (·.liabilities.render) = e'.map (·.liabilities.render))
    (hcount : (e.bind (·.poolUse)).map (·.count) = (e'.bind (·.poolUse)).map (·.count)) :
    e = e' := by
  refine option_eq_of_map_eq hliabilities ?_
  rintro x rfl x' rfl hliabilities
  have hpoolUse := Option.map_injective (fun _ _ h => PoolUse.ext h) hcount
  exact TrustLineExtension.ext (Liabilities.render_injective hliabilities) hpoolUse

namespace TrustLineEntry

def Legible (p : TrustLineEntry) : Prop :=
  p.asset.Legible

theorem render_injOn : Set.InjOn render {p | p.Legible} := by
  intro p hp p' hp' h
  obtain ⟨haccount, hasset, hbalance, hlimit, hflags, hliabilities, hcount⟩ :=
    Record.TrustLineEntry.mk.inj h
  have hextension : p.extension = p'.extension :=
    TrustLineExtension.eq_of_parts hliabilities hcount
  exact TrustLineEntry.ext (AccountId.text_injective haccount)
    (TrustLineAsset.render_injOn hp hp' hasset) hbalance hlimit hflags hextension

/-- How many extensions a trust line has. -/
def level (p : TrustLineEntry) : Nat :=
  match p.extension with
  | none => 0
  | some e => if e.poolUse.isSome then 2 else 1

/-- The fields that are there say how many extensions there are. -/
structure ShowsLevel (p : Record.TrustLineEntry) (level : Nat) : Prop where
  liabilities : p.liabilities.isSome ↔ 1 ≤ level
  poolUseCount : p.poolUseCount.isSome ↔ 2 ≤ level

theorem showsLevel_render (p : TrustLineEntry) : ShowsLevel p.render p.level := by
  obtain ⟨_, _, _, _, _, extension⟩ := p
  match extension with
  | none => constructor <;> simp [render, level]
  | some ⟨_, none⟩ => constructor <;> simp [render, level]
  | some ⟨_, some _⟩ => constructor <;> simp [render, level]

end TrustLineEntry

/-! ## Offers, data, balances and pools -/

structure OfferEntry.Legible (p : OfferEntry) : Prop where
  selling : p.selling.Legible
  buying : p.buying.Legible

def DataEntry.Legible (p : DataEntry) : Prop :=
  Utf8.WellFormed p.name

def BalanceEntry.Legible (p : BalanceEntry) : Prop :=
  p.asset.Legible

def PoolEntry.Legible (p : PoolEntry) : Prop :=
  p.state.parameters.Legible

theorem OfferEntry.render_injOn : Set.InjOn OfferEntry.render {p | p.Legible} := by
  intro p hp p' hp' h
  obtain ⟨hseller, hofferId, hselling, hbuying, hamount, hprice, hflags⟩ :=
    Record.OfferEntry.mk.inj h
  exact OfferEntry.ext (AccountId.text_injective hseller) hofferId
    (Asset.render_injOn hp.selling hp'.selling hselling)
    (Asset.render_injOn hp.buying hp'.buying hbuying) hamount (Price.render_injective hprice) hflags

theorem DataEntry.render_injOn : Set.InjOn DataEntry.render {p | p.Legible} := by
  intro p hp p' hp' h
  obtain ⟨haccount, hname, hvalue⟩ := Record.DataEntry.mk.inj h
  exact DataEntry.ext (AccountId.text_injective haccount) (Utf8.lossy_injOn hp hp' hname)
    (Hex.text_injective hvalue)

theorem BalanceEntry.render_injOn : Set.InjOn BalanceEntry.render {p | p.Legible} := by
  intro p hp p' hp' h
  obtain ⟨hbalance, hclaimants, hasset, hamount, hflags⟩ := Record.BalanceEntry.mk.inj h
  exact BalanceEntry.ext (BalanceId.text_injective hbalance)
    (List.map_injective_iff.mpr Claimant.render_injective hclaimants)
    (Asset.render_injOn hp hp' hasset) hamount hflags

theorem PoolEntry.render_injOn : Set.InjOn PoolEntry.render {p | p.Legible} := by
  intro p hp p' hp' h
  obtain ⟨hpool, hstate⟩ := Record.PoolEntry.mk.inj h
  obtain ⟨hparameters, hreserveA, hreserveB, hshares, hcount⟩ := Record.PoolState.mk.inj hstate
  have hstate : p.state = p'.state :=
    PoolState.ext (PoolParameters.render_injOn hp hp' hparameters) hreserveA hreserveB hshares
      hcount
  exact PoolEntry.ext (PoolId.text_injective hpool) hstate

/-! ## Contracts and times -/

theorem Durability.render_injective : Function.Injective Durability.render := by
  intro durability durability' h
  cases durability <;> cases durability' <;> first | rfl | cases h

structure ContractDataEntry.Legible (p : ContractDataEntry) : Prop where
  key : p.key.Legible
  value : p.value.Legible

theorem ContractDataEntry.render_injOn : Set.InjOn ContractDataEntry.render {p | p.Legible} := by
  intro p hp p' hp' h
  obtain ⟨hcontract, hkey, hdurability, hvalue⟩ := Record.ContractDataEntry.mk.inj h
  exact ContractDataEntry.ext (ScAddress.render_injective hcontract)
    (ScVal.render_injOn hp.key hp'.key hkey) (Durability.render_injective hdurability)
    (ScVal.render_injOn hp.value hp'.value hvalue)

theorem CostInputs.render_injective : Function.Injective CostInputs.render := by
  intro p p' h
  obtain ⟨hinstructions, hfunctions, hglobals, htableEntries, htypes, hdataSegments,
    helemSegments, himports, hexports, hdataSegmentBytes⟩ := Record.CostInputs.mk.inj h
  exact CostInputs.ext hinstructions hfunctions hglobals htableEntries htypes hdataSegments
    helemSegments himports hexports hdataSegmentBytes

theorem CodeEntry.render_injective : Function.Injective CodeEntry.render := by
  intro p p' h
  obtain ⟨hhash, hcode, hcostInputs⟩ := Record.CodeEntry.mk.inj h
  exact CodeEntry.ext (Option.map_injective CostInputs.render_injective hcostInputs) hhash
    (Hex.text_injective hcode)

theorem TtlEntry.render_injective : Function.Injective TtlEntry.render := by
  intro p p' h
  obtain ⟨hkeyHash, hliveUntil⟩ := Record.TtlEntry.mk.inj h
  exact TtlEntry.ext hkeyHash hliveUntil

/-! ## Entries -/

/-- The texts of an entry are well formed and its asset codes are plain. -/
def EntryData.Legible : EntryData → Prop
  | .account entry => entry.Legible
  | .trustLine entry => entry.Legible
  | .offer entry => entry.Legible
  | .data entry => entry.Legible
  | .claimableBalance entry => entry.Legible
  | .liquidityPool entry => entry.Legible
  | .contractData entry => entry.Legible
  | .contractCode _ => True
  | .configSetting _ => True
  | .ttl _ => True

theorem EntryData.render_injOn : Set.InjOn EntryData.render {d | d.Legible} := by
  intro d hd d' hd' h
  cases d with
  | account entry =>
      cases d' with
      | account entry' => rw [AccountEntry.render_injOn hd hd' (Record.EntryData.account.inj h)]
      | _ => cases h
  | trustLine entry =>
      cases d' with
      | trustLine entry' =>
          rw [TrustLineEntry.render_injOn hd hd' (Record.EntryData.trustLine.inj h)]
      | _ => cases h
  | offer entry =>
      cases d' with
      | offer entry' => rw [OfferEntry.render_injOn hd hd' (Record.EntryData.offer.inj h)]
      | _ => cases h
  | data entry =>
      cases d' with
      | data entry' => rw [DataEntry.render_injOn hd hd' (Record.EntryData.data.inj h)]
      | _ => cases h
  | claimableBalance entry =>
      cases d' with
      | claimableBalance entry' =>
          rw [BalanceEntry.render_injOn hd hd' (Record.EntryData.claimableBalance.inj h)]
      | _ => cases h
  | liquidityPool entry =>
      cases d' with
      | liquidityPool entry' =>
          rw [PoolEntry.render_injOn hd hd' (Record.EntryData.liquidityPool.inj h)]
      | _ => cases h
  | contractData entry =>
      cases d' with
      | contractData entry' =>
          rw [ContractDataEntry.render_injOn hd hd' (Record.EntryData.contractData.inj h)]
      | _ => cases h
  | contractCode entry =>
      cases d' with
      | contractCode entry' =>
          rw [CodeEntry.render_injective (Record.EntryData.contractCode.inj h)]
      | _ => cases h
  | configSetting entry =>
      cases d' with
      | configSetting entry' =>
          rw [Setting.render_injective (Record.EntryData.configSetting.inj h)]
      | _ => cases h
  | ttl entry =>
      cases d' with
      | ttl entry' => rw [TtlEntry.render_injective (Record.EntryData.ttl.inj h)]
      | _ => cases h

namespace LedgerEntry

def Legible (p : LedgerEntry) : Prop :=
  p.data.Legible

/-- The entry without an extension that names no sponsor. -/
def withoutEmptyExtension (p : LedgerEntry) : LedgerEntry :=
  { p with extension := p.extension.filter (·.sponsor.isSome) }

theorem filter_eq_map_sponsor (e : Option EntryExtension) :
    e.filter (·.sponsor.isSome) = (e.bind (·.sponsor)).map fun id => ⟨some id⟩ := by
  match e with
  | none => rfl
  | some ⟨none⟩ => rfl
  | some ⟨some _⟩ => rfl

theorem filter_eq_filter_iff (e e' : Option EntryExtension) :
    e.filter (·.sponsor.isSome) = e'.filter (·.sponsor.isSome) ↔
      e.bind (·.sponsor) = e'.bind (·.sponsor) := by
  rw [filter_eq_map_sponsor, filter_eq_map_sponsor]
  have hinjective : Function.Injective fun id : AccountId => EntryExtension.mk (some id) :=
    fun _ _ h => Option.some.inj (EntryExtension.mk.inj h)
  exact (Option.map_injective hinjective).eq_iff

/-- An entry is shown as it is without an extension that names no sponsor. -/
theorem render_withoutEmptyExtension (p : LedgerEntry) :
    p.withoutEmptyExtension.render = p.render := by
  obtain ⟨_, _, extension⟩ := p
  match extension with
  | none => rfl
  | some ⟨none⟩ => rfl
  | some ⟨some _⟩ => rfl

theorem render_eq_iff {p p' : LedgerEntry} (hp : p.Legible) (hp' : p'.Legible) :
    p.render = p'.render ↔ p.withoutEmptyExtension = p'.withoutEmptyExtension := by
  constructor
  · intro h
    obtain ⟨hlastModified, hsponsor, hdata⟩ := Record.LedgerEntry.mk.inj h
    have hsponsor := Option.map_injective AccountId.text_injective hsponsor
    exact LedgerEntry.ext hlastModified (EntryData.render_injOn hp hp' hdata)
      ((filter_eq_filter_iff p.extension p'.extension).mpr hsponsor)
  · intro h
    rw [← render_withoutEmptyExtension p, h, render_withoutEmptyExtension]

end LedgerEntry

/-! ## Keys and changes -/

/-- The texts of a key are well formed and its asset code is plain. -/
def LedgerKey.Legible : LedgerKey → Prop
  | .account _ => True
  | .trustLine _ asset => asset.Legible
  | .offer _ _ => True
  | .data _ name => Utf8.WellFormed name
  | .claimableBalance _ => True
  | .liquidityPool _ => True
  | .contractData _ key _ => key.Legible
  | .contractCode _ => True
  | .configSetting _ => True
  | .ttl _ => True

theorem LedgerKey.render_injOn : Set.InjOn LedgerKey.render {k | k.Legible} := by
  intro k hk k' hk' h
  cases k with
  | account id =>
      cases k' with
      | account id' => rw [AccountId.text_injective (Record.LedgerKey.account.inj h)]
      | _ => cases h
  | trustLine id asset =>
      cases k' with
      | trustLine id' asset' =>
          obtain ⟨hid, hasset⟩ := Record.LedgerKey.trustLine.inj h
          rw [AccountId.text_injective hid, TrustLineAsset.render_injOn hk hk' hasset]
      | _ => cases h
  | offer seller offerId =>
      cases k' with
      | offer seller' offerId' =>
          obtain ⟨hseller, hofferId⟩ := Record.LedgerKey.offer.inj h
          rw [AccountId.text_injective hseller, hofferId]
      | _ => cases h
  | data id name =>
      cases k' with
      | data id' name' =>
          obtain ⟨hid, hname⟩ := Record.LedgerKey.data.inj h
          rw [AccountId.text_injective hid, Utf8.lossy_injOn hk hk' hname]
      | _ => cases h
  | claimableBalance balance =>
      cases k' with
      | claimableBalance balance' =>
          rw [BalanceId.text_injective (Record.LedgerKey.claimableBalance.inj h)]
      | _ => cases h
  | liquidityPool pool =>
      cases k' with
      | liquidityPool pool' => rw [PoolId.text_injective (Record.LedgerKey.liquidityPool.inj h)]
      | _ => cases h
  | contractData contract key durability =>
      cases k' with
      | contractData contract' key' durability' =>
          obtain ⟨hcontract, hkey, hdurability⟩ := Record.LedgerKey.contractData.inj h
          rw [ScAddress.render_injective hcontract, ScVal.render_injOn hk hk' hkey,
            Durability.render_injective hdurability]
      | _ => cases h
  | contractCode hash =>
      cases k' with
      | contractCode hash' => rw [Record.LedgerKey.contractCode.inj h]
      | _ => cases h
  | configSetting setting =>
      cases k' with
      | configSetting setting' =>
          rw [SettingId.render_injective (Record.LedgerKey.configSetting.inj h)]
      | _ => cases h
  | ttl keyHash =>
      cases k' with
      | ttl keyHash' => rw [Record.LedgerKey.ttl.inj h]
      | _ => cases h

namespace EntryChange

/-- The texts of a change are well formed and its asset codes are plain. -/
def Legible : EntryChange → Prop
  | .created entry => entry.Legible
  | .updated entry => entry.Legible
  | .removed key => key.Legible
  | .state entry => entry.Legible
  | .restored entry => entry.Legible

/-- The change without an extension that names no sponsor. -/
def withoutEmptyExtension : EntryChange → EntryChange
  | .created entry => .created entry.withoutEmptyExtension
  | .updated entry => .updated entry.withoutEmptyExtension
  | .removed key => .removed key
  | .state entry => .state entry.withoutEmptyExtension
  | .restored entry => .restored entry.withoutEmptyExtension

theorem render_eq_iff {a b : EntryChange} (ha : a.Legible) (hb : b.Legible) :
    a.render = b.render ↔ a.withoutEmptyExtension = b.withoutEmptyExtension := by
  cases a with
  | created entry =>
      cases b with
      | created entry' =>
          simpa [render, withoutEmptyExtension] using LedgerEntry.render_eq_iff ha hb
      | _ => simp [render, withoutEmptyExtension]
  | updated entry =>
      cases b with
      | updated entry' =>
          simpa [render, withoutEmptyExtension] using LedgerEntry.render_eq_iff ha hb
      | _ => simp [render, withoutEmptyExtension]
  | removed key =>
      cases b with
      | removed key' =>
          simpa [render, withoutEmptyExtension] using LedgerKey.render_injOn.eq_iff ha hb
      | _ => simp [render, withoutEmptyExtension]
  | state entry =>
      cases b with
      | state entry' =>
          simpa [render, withoutEmptyExtension] using LedgerEntry.render_eq_iff ha hb
      | _ => simp [render, withoutEmptyExtension]
  | restored entry =>
      cases b with
      | restored entry' =>
          simpa [render, withoutEmptyExtension] using LedgerEntry.render_eq_iff ha hb
      | _ => simp [render, withoutEmptyExtension]

/-- Laying extensions open loses nothing of a change but an extension that names no sponsor. In
particular the fields that are there tell how many extensions an account or a trust line has, and
a setting keeps its kind and all its numbers. -/
theorem flattening_loses_only_empty_extensions :
    (∀ a b : EntryChange, a.Legible → b.Legible →
      (a.render = b.render ↔ a.withoutEmptyExtension = b.withoutEmptyExtension)) ∧
    (∀ p : AccountEntry, AccountEntry.ShowsLevel p.render p.level) ∧
    (∀ p : TrustLineEntry, TrustLineEntry.ShowsLevel p.render p.level) ∧
    ∀ s : Setting, s.render.ctorIdx = s.ctorIdx ∧ s.render.numbers = s.numbers := by
  refine ⟨fun a b ha hb => render_eq_iff ha hb, AccountEntry.showsLevel_render,
    TrustLineEntry.showsLevel_render, fun s => ⟨?_, ?_⟩⟩
  · exact Setting.ctorIdx_render s
  · exact Setting.numbers_render s

/-- Accounts that differ in how many extensions they have are shown apart, and those that differ
in an empty extension of their entries are not. -/
theorem created_accounts_alike_and_apart :
    let change (account : Option AccountExtension) (entry : Option EntryExtension) :=
      EntryChange.created
        ⟨7, .account ⟨⟨.zero 32⟩, 1, 2, 0, none, 0, Utf8.bytes "ö", .zero 4, [], account⟩, entry⟩
    let one : AccountExtension := ⟨⟨0, 0⟩, none⟩
    let two : AccountExtension := ⟨⟨0, 0⟩, some ⟨0, 0, [], none⟩⟩
    (∀ account entry, (change account entry).Legible) ∧
      (change one none).render = (change one (some ⟨none⟩)).render ∧
      (change one none).render ≠ (change two none).render := by
  intro change one two
  have hlegible : ∀ account entry, (change account entry).Legible := fun _ _ => ⟨"ö", rfl⟩
  obtain ⟨halike, -⟩ := flattening_loses_only_empty_extensions
  refine ⟨hlegible, ?_, ?_⟩
  · exact (halike _ _ (hlegible one none) (hlegible one (some ⟨none⟩))).mpr rfl
  · intro h
    have heq := (halike _ _ (hlegible one none) (hlegible two none)).mp h
    simp [change, one, two, withoutEmptyExtension, LedgerEntry.withoutEmptyExtension] at heq

end EntryChange

end LedgerExport.Protocol
