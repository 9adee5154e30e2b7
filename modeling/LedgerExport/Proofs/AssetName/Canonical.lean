import LedgerExport.Proofs.AssetEvent.Shape
import LedgerExport.Proofs.AssetName
import LedgerExport.Proofs.StrKey.Reading
import Mathlib.Data.List.TakeWhile

/-!
# Which texts are names of the assets that they are read as

What is read as an asset is the name of the native one, or a code, a colon and the
text of an issuer. The bytes of the code are taken as they are, zeros among them,
and shown only up to the first zero. So a text is the name of the asset that it is
read as exactly if no zero stands in it; otherwise what stands between the first
zero and the colon is not shown. The same holds of the name that an event reports
and the asset that the event is checked against.
-/

namespace LedgerExport

namespace Protocol

/-! ## Codes -/

theorem codeBytes_append_zeros (bytes : Octets) (zeros : Nat) :
    codeBytes (bytes ++ List.replicate zeros 0) = codeBytes bytes := by
  unfold codeBytes
  rw [List.takeWhile_append]
  split
  · next hall =>
      have hbytes := (List.takeWhile_prefix (· != 0)).eq_of_length hall
      rw [hbytes, List.takeWhile_replicate]
      simp
  · rfl

/-- A code that a text is filled up to is shown as the text in front of its first zero. -/
theorem codeText_of_filled {code : Octets} {text : String} {zeros : Nat}
    (h : code = Utf8.bytes text ++ List.replicate zeros 0) :
    codeText code = String.ofList (text.toList.takeWhile (· != '\x00')) := by
  have hzero : '\x00'.toNat < 128 := by decide
  have hbytes : codeBytes (Utf8.bytes text) = Utf8.encode (text.toList.takeWhile (· != '\x00')) :=
    Utf8.takeWhile_encode hzero text.toList
  have hshown := Utf8.lossy_bytes (String.ofList (text.toList.takeWhile (· != '\x00')))
  rw [Utf8.bytes, String.toList_ofList] at hshown
  rw [codeText, h, codeBytes_append_zeros, hbytes, hshown]

/-- A code holds the bytes of a text of at least so many bytes and without a colon, and then only
zeros. -/
structure CodeHolds (least : Nat) (code : Octets) (text : String) : Prop where
  filled : ∃ zeros, code = Utf8.bytes text ++ List.replicate zeros 0
  least_le : least ≤ (Utf8.bytes text).length
  colon : ':' ∉ text.toList

namespace Asset

variable {text : String} {asset : Asset} {issuer : AccountId}

theorem ofCode?_eq_some_iff {bytes : Octets} :
    ofCode? bytes issuer = some asset ↔
      (∃ code : FixedBytes 4, asset = .alphanum4 code issuer ∧ 1 ≤ bytes.length ∧
        ∃ zeros, code.bytes = bytes ++ List.replicate zeros 0) ∨
      (∃ code : FixedBytes 12, asset = .alphanum12 code issuer ∧ 5 ≤ bytes.length ∧
        ∃ zeros, code.bytes = bytes ++ List.replicate zeros 0) := by
  unfold ofCode?
  constructor
  · intro h
    split at h
    · cases h
    · split at h
      · obtain ⟨code, hcode, rfl⟩ := Option.map_eq_some_iff.mp h
        exact .inl ⟨code, rfl, by omega, filled_eq_some_iff.mp hcode⟩
      · obtain ⟨code, hcode, rfl⟩ := Option.map_eq_some_iff.mp h
        exact .inr ⟨code, rfl, by omega, filled_eq_some_iff.mp hcode⟩
  · rintro (⟨code, rfl, hleast, hzeros⟩ | ⟨code, rfl, hleast, hzeros⟩)
    · have hmost : bytes.length ≤ 4 := by
        obtain ⟨zeros, hcode⟩ := hzeros
        have hlength := code.length_bytes
        rw [hcode, List.length_append] at hlength
        omega
      rw [if_neg (by omega), if_pos hmost, filled_eq_some_iff.mpr hzeros, Option.map_some]
    · rw [if_neg (by omega), if_neg (by omega), filled_eq_some_iff.mpr hzeros, Option.map_some]

/-! ## Texts of assets -/

/-- What is read as an asset: the name of the native one, or a code in the shorter form that holds
it, a colon and the text of an issuer. -/
inductive Spells : String → Asset → Prop
  | native : Spells nativeName .native
  | alphanum4 {text : String} {code : FixedBytes 4} {issuer : AccountId}
      (h : CodeHolds 1 code.bytes text) :
      Spells (text ++ ":" ++ issuer.text) (.alphanum4 code issuer)
  | alphanum12 {text : String} {code : FixedBytes 12} {issuer : AccountId}
      (h : CodeHolds 5 code.bytes text) :
      Spells (text ++ ":" ++ issuer.text) (.alphanum12 code issuer)

theorem spells_of_code {code : List Char} (hcolon : ':' ∉ code)
    (h : ofCode? (Utf8.encode code) issuer = some asset) :
    Spells (String.ofList code ++ ":" ++ issuer.text) asset := by
  have hbytes : Utf8.encode code = Utf8.bytes (String.ofList code) := by
    rw [Utf8.bytes, String.toList_ofList]
  have hcolon : ':' ∉ (String.ofList code).toList := by rwa [String.toList_ofList]
  rw [hbytes] at h
  obtain ⟨bytes, rfl, hleast, hzeros⟩ | ⟨bytes, rfl, hleast, hzeros⟩ := ofCode?_eq_some_iff.mp h
  · exact .alphanum4 ⟨hzeros, hleast, hcolon⟩
  · exact .alphanum12 ⟨hzeros, hleast, hcolon⟩

/-- A text is read as an asset exactly if it spells it. -/
theorem parse_eq_ok_iff : parse text = .ok asset ↔ Spells text asset := by
  constructor
  · intro h
    by_cases hnative : text = nativeName
    · rw [parse, if_pos hnative] at h
      cases h
      rw [hnative]
      exact .native
    · cases hcut : text.toList.dropWhile (· != ':') with
      | nil =>
          simp only [parse, if_neg hnative, hcut] at h
          cases h
      | cons mark issuerText =>
          obtain ⟨htext, hcolon⟩ := cut_of_dropWhile hcut
          simp only [parse, if_neg hnative, hcut] at h
          split at h
          · cases h
          · next issuer hissuer =>
              split at h
              · next hcode =>
                  cases h
                  have hwhole : text = String.ofList (text.toList.takeWhile (· != ':')) ++ ":" ++
                      issuer.text := by
                    rw [← AccountId.parse_eq_ok_iff.mp hissuer, ← String.toList_inj]
                    simpa using htext
                  rw [hwhole]
                  exact spells_of_code hcolon hcode
              · cases h
  · intro h
    cases h with
    | native => exact if_pos rfl
    | alphanum4 h =>
        exact parse_of_code h.colon
          (ofCode?_eq_some_iff.mpr (.inl ⟨_, rfl, h.least_le, h.filled⟩))
    | alphanum12 h =>
        exact parse_of_code h.colon
          (ofCode?_eq_some_iff.mpr (.inr ⟨_, rfl, h.least_le, h.filled⟩))

/-! ## Names -/

/-- A text without what stands between its first zero and its first colon. -/
def shownName (text : String) : String :=
  String.ofList ((text.toList.takeWhile (· != ':')).takeWhile (· != '\x00') ++
    text.toList.dropWhile (· != ':'))

theorem shownName_of_code {code : String} (hcolon : ':' ∉ code.toList) :
    shownName (code ++ ":" ++ issuer.text) =
      String.ofList (code.toList.takeWhile (· != '\x00')) ++ ":" ++ issuer.text := by
  rw [shownName, toList_of_code, takeWhile_of_cut hcolon, dropWhile_of_cut hcolon,
    ← String.toList_inj, toList_of_code, String.toList_ofList, String.toList_ofList]

/-- The name of an asset is what is shown of the text that it was read from. -/
theorem Spells.name_eq (h : Spells text asset) : asset.name = shownName text := by
  cases h with
  | native => rfl
  | alphanum4 h =>
      obtain ⟨zeros, hcode⟩ := h.filled
      rw [shownName_of_code h.colon, name, render, codeText_of_filled hcode]
      rfl
  | alphanum12 h =>
      obtain ⟨zeros, hcode⟩ := h.filled
      rw [shownName_of_code h.colon, name, render, codeText_of_filled hcode]
      rfl

theorem shownName_of_code_eq_iff {code : String} (hcolon : ':' ∉ code.toList) :
    shownName (code ++ ":" ++ issuer.text) = code ++ ":" ++ issuer.text ↔
      '\x00' ∉ (code ++ ":" ++ issuer.text).toList := by
  have hzero : '\x00' ∈ (code ++ ":" ++ issuer.text).toList ↔ '\x00' ∈ code.toList := by
    rw [toList_of_code]
    have hissuer : '\x00' ∉ issuer.text.toList := fun h =>
      absurd (StrKey.encode_subset_alphabet _ _ h) (by decide)
    simp [hissuer]
  rw [shownName_of_code hcolon, hzero, ← String.toList_inj, toList_of_code, toList_of_code,
    String.toList_ofList, List.append_left_inj, List.takeWhile_eq_self_iff]
  simp only [bne_iff_ne]
  exact ⟨fun h hmem => h _ hmem rfl, fun h c hc hzero => h (hzero ▸ hc)⟩

/-- All of a text is shown exactly if no zero stands in it. -/
theorem Spells.shownName_eq_iff (h : Spells text asset) :
    shownName text = text ↔ '\x00' ∉ text.toList := by
  cases h with
  | native => exact iff_of_true rfl (by decide)
  | alphanum4 h => exact shownName_of_code_eq_iff h.colon
  | alphanum12 h => exact shownName_of_code_eq_iff h.colon

theorem name_eq_shownName_of_parse (h : parse text = .ok asset) : asset.name = shownName text :=
  (parse_eq_ok_iff.mp h).name_eq

/-- A text is the name of the asset that it is read as exactly if no zero stands in it. -/
theorem name_eq_iff_of_parse (h : parse text = .ok asset) :
    asset.name = text ↔ '\x00' ∉ text.toList := by
  rw [name_eq_shownName_of_parse h]
  exact (parse_eq_ok_iff.mp h).shownName_eq_iff

/-- Without zeros, texts of the same asset are the same. -/
theorem eq_of_parse_eq {text' : String} (h : parse text = .ok asset) (h' : parse text' = .ok asset)
    (hzero : '\x00' ∉ text.toList) (hzero' : '\x00' ∉ text'.toList) : text = text' :=
  ((name_eq_iff_of_parse h).mpr hzero).symm.trans ((name_eq_iff_of_parse h').mpr hzero')

end Asset

end Protocol

/-! ## Names that events report -/

namespace AssetEvent

open Protocol (Asset ContractEvent)

variable {network : Option NetworkId} {kind : Kind} {event : ContractEvent}
  {payload : Record.AssetEvent} {name : String}

/-- The name that an event reports is read as the asset that its contract is compared with. -/
theorem Reports.exists_asset (h : Reports network kind event payload)
    (hname : payload.asset = some name) :
    ∃ asset, Asset.parse name = .ok asset ∧ (payload.assetContract = true ↔
      ∃ id, network = some id ∧ event.contract = some (asset.contractId id)) := by
  obtain ⟨content, asset, hlast, hcontent, hasset⟩ := (h.asset name).mp hname
  refine ⟨asset, hasset, ?_⟩
  rw [h.assetContract]
  constructor
  · rintro ⟨id, name', asset', hnetwork, hname', hasset', hcontract⟩
    obtain rfl : name' = name := Option.some.inj (hname'.symm.trans hname)
    obtain rfl : asset' = asset := Except.ok.inj (hasset'.symm.trans hasset)
    exact ⟨id, hnetwork, hcontract⟩
  · rintro ⟨id, hnetwork, hcontract⟩
    exact ⟨id, name, asset, hnetwork, hname, hasset, hcontract⟩

end AssetEvent

namespace Protocol.Asset

/-- An asset is named by what is shown of the text that it was read from, and this is all of the text
exactly if no zero stands in it. So of two texts without zeros only equal ones are read as the same
asset, and an event reports the name of the asset that its contract is compared with if no zero
stands in what it reports. -/
theorem texts_canonical_up_to_zeros (text : String) :
    (∀ asset, parse text = .ok asset →
      asset.name = shownName text ∧ (asset.name = text ↔ '\x00' ∉ text.toList)) ∧
    (∀ text' asset, parse text = .ok asset → parse text' = .ok asset →
      '\x00' ∉ text.toList → '\x00' ∉ text'.toList → text = text') ∧
    (∀ kind event network payload, AssetEvent.decode kind event network = .ok payload →
      payload.asset = some text → ∃ asset, parse text = .ok asset ∧
        (payload.assetContract = true ↔
          ∃ id, network = some id ∧ event.contract = some (asset.contractId id)) ∧
        asset.name = shownName text ∧ (asset.name = text ↔ '\x00' ∉ text.toList)) := by
  refine ⟨fun asset h => ⟨name_eq_shownName_of_parse h, name_eq_iff_of_parse h⟩,
    fun text' asset => eq_of_parse_eq, ?_⟩
  intro kind event network payload hdecode hname
  have hreports := AssetEvent.decode_eq_ok_iff.mp hdecode
  obtain ⟨asset, hasset, hcontract⟩ := hreports.exists_asset hname
  exact ⟨asset, hasset, hcontract, name_eq_shownName_of_parse hasset, name_eq_iff_of_parse hasset⟩

/-- Two codes without zeros are read as two assets with these names, and an event that names a code
with a zero inside reports more than the name of the asset that it is checked against. -/
theorem event_with_zero_in_code_reported :
    let issuer : AccountId := ⟨.zero 32⟩
    let hidden := "U\x00S" ++ ":" ++ issuer.text
    let transfer : ContractEvent := ⟨none, .contract,
      [.symbol (Utf8.bytes "transfer"), .address (.account issuer), .address (.account issuer),
        .string (Utf8.bytes hidden)], .i128 ⟨0, 1⟩⟩
    (∃ asset other : Asset, parse ("US" ++ ":" ++ issuer.text) = .ok asset ∧
      parse ("UT" ++ ":" ++ issuer.text) = .ok other ∧
      asset.name = "US" ++ ":" ++ issuer.text ∧ asset ≠ other) ∧
    ∃ payload, AssetEvent.decode .transfer transfer none = .ok payload ∧
      payload.asset = some hidden ∧ ∃ asset, parse hidden = .ok asset ∧
        asset.name = shownName hidden ∧ asset.name ≠ hidden := by
  intro issuer hidden transfer
  obtain ⟨hname, hsame, -⟩ := texts_canonical_up_to_zeros ("US" ++ ":" ++ issuer.text)
  obtain ⟨-, -, hevent⟩ := texts_canonical_up_to_zeros hidden
  have hus : parse ("US" ++ ":" ++ issuer.text) =
      .ok (.alphanum4 ⟨Utf8.bytes "US" ++ [0, 0], rfl⟩ issuer) :=
    parse_eq_ok_iff.mpr (.alphanum4 ⟨⟨2, rfl⟩, by decide, by decide⟩)
  have hut : parse ("UT" ++ ":" ++ issuer.text) =
      .ok (.alphanum4 ⟨Utf8.bytes "UT" ++ [0, 0], rfl⟩ issuer) :=
    parse_eq_ok_iff.mpr (.alphanum4 ⟨⟨2, rfl⟩, by decide, by decide⟩)
  have hhidden : parse hidden = .ok (.alphanum4 ⟨Utf8.bytes "U\x00S" ++ [0], rfl⟩ issuer) :=
    parse_eq_ok_iff.mpr (.alphanum4 ⟨⟨1, rfl⟩, by decide, by decide⟩)
  refine ⟨⟨_, _, hus, hut, ?_, ?_⟩, ?_⟩
  · exact (hname _ hus).2.mpr (by decide +kernel)
  · intro heq
    have htexts := hsame _ _ hus (heq ▸ hut) (by decide +kernel) (by decide +kernel)
    exact absurd htexts (by decide +kernel)
  · obtain ⟨payload, hreports⟩ : ∃ payload, AssetEvent.Reports none .transfer transfer payload :=
      AssetEvent.exists_reports_iff.mpr ⟨_, .transfer⟩
    have hdecode := AssetEvent.decode_eq_ok_iff.mpr hreports
    have hreported : payload.asset = some hidden :=
      (hreports.asset hidden).mpr ⟨_, _, rfl, Utf8.string?_eq_some_iff.mpr rfl, hhidden⟩
    obtain ⟨asset, hasset, -, hshown, hiff⟩ := hevent _ _ _ _ hdecode hreported
    refine ⟨payload, hdecode, hreported, asset, hasset, hshown, fun heq => ?_⟩
    exact absurd (hiff.mp heq) (by decide +kernel)

/-- A zero behind a code is read as one of those that the code is filled up with, so that a second
text is read as the asset. -/
theorem zero_behind_code_not_shown :
    let text := "U\x00:GAAAAAAAAAAAAAAAAAAAAAAAAAAAAAAAAAAAAAAAAAAAAAAAAAAAAWHF"
    let text' := "U:GAAAAAAAAAAAAAAAAAAAAAAAAAAAAAAAAAAAAAAAAAAAAAAAAAAAAWHF"
    ∃ asset : Asset, parse text = .ok asset ∧ parse text' = .ok asset ∧
      asset.name ≠ text ∧ text ≠ text' := by
  intro text text'
  let issuer : AccountId := ⟨.zero 32⟩
  have htext : text = "U\x00" ++ ":" ++ issuer.text := by decide +kernel
  have htext' : text' = "U" ++ ":" ++ issuer.text := by decide +kernel
  have hread : parse text = .ok (.alphanum4 ⟨[0x55, 0, 0, 0], rfl⟩ issuer) := by
    rw [htext]
    exact parse_eq_ok_iff.mpr (.alphanum4 ⟨⟨2, rfl⟩, by decide, by decide⟩)
  have hread' : parse text' = .ok (.alphanum4 ⟨[0x55, 0, 0, 0], rfl⟩ issuer) := by
    rw [htext']
    exact parse_eq_ok_iff.mpr (.alphanum4 ⟨⟨3, rfl⟩, by decide, by decide⟩)
  refine ⟨_, hread, hread', fun hname => ?_, by decide⟩
  exact absurd ((name_eq_iff_of_parse hread).mp hname) (by decide)

end Protocol.Asset

end LedgerExport
