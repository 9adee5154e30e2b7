import LedgerExport.Proofs.Render.Asset
import LedgerExport.Proofs.Text.Ascii

/-!
# Assets are read back from their names

The name of an asset is cut at its first colon, so an asset is read back from its
name if its code is a text without a colon. The length of that text decides the
form of the asset, so it has to be one for which the shorter form does not do. Such
assets have names of their own.
-/

namespace LedgerExport.Protocol

/-- The code of an asset that can be named: a text of at least so many bytes and none of them zero
or a colon, and then only zeros. -/
def NameableCode (least : Nat) (code : Octets) : Prop :=
  ∃ text, CodeSpells code text ∧ least ≤ (Utf8.bytes text).length ∧ 0x3a ∉ Utf8.bytes text

/-- A byte string is filled up to a code exactly if zeros behind it make the code. -/
theorem filled_eq_some_iff {n : Nat} {bytes : Octets} {code : FixedBytes n} :
    filled n bytes = some code ↔ ∃ zeros, code.bytes = bytes ++ List.replicate zeros 0 := by
  rw [filled, FixedBytes.ofList?_eq_some_iff]
  constructor
  · intro h
    exact ⟨_, h.symm⟩
  · rintro ⟨zeros, hcode⟩
    have hlength := code.length_bytes
    rw [hcode, List.length_append, List.length_replicate] at hlength
    rw [hcode, ← hlength, Nat.add_sub_cancel_left]

/-- A text that fits is filled up to the code that it spells. -/
theorem CodeSpells.filled_bytes {n : Nat} {code : FixedBytes n} {text : String}
    (h : CodeSpells code.bytes text) : Protocol.filled n (Utf8.bytes text) = some code :=
  filled_eq_some_iff.mpr h.filled

namespace Asset

/-- An asset can be named if it is native or its code can be; a longer code is one that does not
fit into the shorter form. -/
def Nameable : Asset → Prop
  | .native => True
  | .alphanum4 code _ => NameableCode 1 code.bytes
  | .alphanum12 code _ => NameableCode 5 code.bytes

theorem colon_notMem_of_bytes {text : String} (h : 0x3a ∉ Utf8.bytes text) :
    ':' ∉ text.toList := by
  intro hmem
  exact h ((Utf8.ofNat_mem_encode_iff (by decide)).mpr hmem)

theorem toList_of_code (code : String) (issuer : AccountId) :
    (code ++ ":" ++ issuer.text).toList = code.toList ++ ':' :: issuer.text.toList := by
  rw [String.toList_append, String.toList_append, List.append_assoc]
  rfl

/-- What stands in front of the colon is the code, and what stands behind it the issuer. -/
theorem parse_of_code {text : String} {issuer : AccountId} {asset : Asset}
    (hcolon : ':' ∉ text.toList) (hcode : ofCode? (Utf8.bytes text) issuer = some asset) :
    parse (text ++ ":" ++ issuer.text) = .ok asset := by
  have hnative : text ++ ":" ++ issuer.text ≠ nativeName := by
    intro h
    have hmem : ':' ∈ nativeName.toList := by
      rw [← h, toList_of_code]
      exact List.mem_append_right _ List.mem_cons_self
    exact absurd hmem (by decide)
  have hbytes : ofCode? (Utf8.encode text.toList) issuer = some asset := hcode
  simp only [parse, if_neg hnative, toList_of_code, takeWhile_of_cut hcolon, dropWhile_of_cut hcolon,
    String.ofList_toList, AccountId.parse_text, hbytes]

/-- An asset that can be named is read back from its name. -/
theorem parse_name {asset : Asset} (h : asset.Nameable) : parse asset.name = .ok asset := by
  cases asset with
  | native => exact if_pos rfl
  | alphanum4 code issuer =>
      obtain ⟨text, hspells, hleast, hcolon⟩ := h
      have hmost := code.length_bytes ▸ hspells.length_le
      have hcode : ofCode? (Utf8.bytes text) issuer = some (.alphanum4 code issuer) := by
        rw [ofCode?, if_neg (by omega), if_pos hmost, hspells.filled_bytes, Option.map_some]
      rw [name, render, hspells.codeText_eq]
      exact parse_of_code (colon_notMem_of_bytes hcolon) hcode
  | alphanum12 code issuer =>
      obtain ⟨text, hspells, hleast, hcolon⟩ := h
      have hcode : ofCode? (Utf8.bytes text) issuer = some (.alphanum12 code issuer) := by
        rw [ofCode?, if_neg (by omega), if_neg (by omega), hspells.filled_bytes, Option.map_some]
      rw [name, render, hspells.codeText_eq]
      exact parse_of_code (colon_notMem_of_bytes hcolon) hcode

/-- Assets that can be named are read back from their names, so they have different ones. -/
theorem named_assets_read_back :
    (∀ asset : Asset, asset.Nameable → parse asset.name = .ok asset) ∧
      Set.InjOn name {asset | asset.Nameable} := by
  refine ⟨fun _ => parse_name, fun asset h asset' h' hname => ?_⟩
  have hread : parse asset.name = .ok asset := parse_name h
  rw [hname, parse_name h'] at hread
  exact (Except.ok.inj hread).symm

/-- A code of one character in three bytes, and one of five bytes that takes the longer form. -/
theorem short_and_long_code_read_back :
    let short : Asset := .alphanum4 ⟨[0xe2, 0x82, 0xac, 0], rfl⟩ ⟨.zero 32⟩
    let long : Asset := .alphanum12 ⟨Utf8.bytes "TOKEN" ++ List.replicate 7 0, rfl⟩ ⟨.zero 32⟩
    short.Nameable ∧ long.Nameable ∧ parse short.name = .ok short ∧
      parse long.name = .ok long ∧ short.name ≠ long.name := by
  intro short long
  have hshort : short.Nameable := ⟨"€", ⟨by decide, 1, rfl⟩, by decide, by decide⟩
  have hlong : long.Nameable := ⟨"TOKEN", ⟨by decide, 7, rfl⟩, by decide, by decide⟩
  obtain ⟨hread, hinj⟩ := named_assets_read_back
  exact ⟨hshort, hlong, hread short hshort, hread long hlong, hinj.ne hshort hlong nofun⟩

end Asset

end LedgerExport.Protocol
