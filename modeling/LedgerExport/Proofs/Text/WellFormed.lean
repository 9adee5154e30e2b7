import LedgerExport.Proofs.Text.Utf8
import Mathlib.Data.Set.Function

/-!
# Text survives its bytes

The encoding of a text is scanned back as that text, without a mark, so it is
shown as it was. Well-formed byte strings are these encodings, and two of them
that are shown alike are the same.
-/

namespace LedgerExport.Utf8

/-! ## Whole sequences -/

theorem not_lt_of_within {low high bound byte : UInt8} (hbound : bound ≤ low)
    (h : within low high byte = true) : ¬byte < bound := by
  rw [within, decide_eq_true_eq] at h
  exact UInt8.not_lt.mpr (UInt8.le_trans hbound h.1)

theorem within_eq_false {low high low' high' byte : UInt8} (hbound : high' < low)
    (h : within low high byte = true) : within low' high' byte = false := by
  rw [within_iff] at h
  rw [Bool.eq_false_iff, ne_eq, within_iff]
  have hbound := UInt8.lt_iff_toNat_lt.mp hbound
  omega

variable {a b c d : UInt8} (rest : Octets)

theorem scan_one (ha : a < 0x80) : scan (a :: rest) = some (char a.toNat []) :: scan rest := by
  rw [scan.eq_def]
  simp only [ha, if_true]

theorem scan_two (ha : within 0xc2 0xdf a = true) (hb : continues b = true) :
    scan (a :: b :: rest) = some (char (a.toNat % 32) [b]) :: scan rest := by
  have hone : ¬a < 0x80 := not_lt_of_within (by decide) ha
  rw [scan.eq_def]
  simp only [hone, ha, hb, if_true, if_false]

theorem scan_three (ha : within 0xe0 0xef a = true) (hb : followsThree a b = true)
    (hc : continues c = true) :
    scan (a :: b :: c :: rest) = some (char (a.toNat % 16) [b, c]) :: scan rest := by
  have hone : ¬a < 0x80 := not_lt_of_within (by decide) ha
  have htwo : within 0xc2 0xdf a = false := within_eq_false (by decide) ha
  rw [scan.eq_def]
  simp only [hone, htwo, ha, hb, hc, if_true, if_false, Bool.false_eq_true]

theorem scan_four (ha : within 0xf0 0xf4 a = true) (hb : followsFour a b = true)
    (hc : continues c = true) (hd : continues d = true) :
    scan (a :: b :: c :: d :: rest) = some (char (a.toNat % 8) [b, c, d]) :: scan rest := by
  have hone : ¬a < 0x80 := not_lt_of_within (by decide) ha
  have htwo : within 0xc2 0xdf a = false := within_eq_false (by decide) ha
  have hthree : within 0xe0 0xef a = false := within_eq_false (by decide) ha
  rw [scan.eq_def]
  simp only [hone, htwo, hthree, ha, hb, hc, hd, if_true, if_false, Bool.false_eq_true]

/-! ## The bytes of a character -/

theorem toNat_ofNat {n : Nat} (h : n < 256) : (UInt8.ofNat n).toNat = n :=
  UInt8.toNat_ofNat_of_lt' h

theorem continues_ofNat (n : Nat) : continues (UInt8.ofNat (n % 64 + 128)) = true := by
  rw [continues_iff, toNat_ofNat (by omega)]
  omega

/-- A byte made of a number within bounds lies within them. -/
theorem within_ofNat {low high : UInt8} {n : Nat} (hlow : low.toNat ≤ n) (hhigh : n ≤ high.toNat) :
    within low high (UInt8.ofNat n) = true := by
  have hlt : n < 256 := Nat.lt_of_le_of_lt hhigh high.toNat_lt
  rw [within_iff, toNat_ofNat hlt]
  exact ⟨hlow, hhigh⟩

/-- The second byte of a character of three bytes keeps to the range that its lead byte allows. -/
theorem followsThree_ofNat {v : Nat} (hlow : 0x800 ≤ v) (hhigh : v < 0x10000)
    (hvalid : v.isValidChar) :
    followsThree (UInt8.ofNat (v / 4096 % 16 + 224)) (UInt8.ofNat (v / 64 % 64 + 128)) = true := by
  have hlead : (UInt8.ofNat (v / 4096 % 16 + 224)).toNat = v / 4096 % 16 + 224 :=
    toNat_ofNat (by omega)
  rw [followsThree]
  split
  · next h =>
      have h := congrArg UInt8.toNat h
      simp only [hlead, UInt8.reduceToNat] at h
      exact within_ofNat (by simp only [UInt8.reduceToNat]; omega)
        (by simp only [UInt8.reduceToNat]; omega)
  · split
    · next h =>
        have h := congrArg UInt8.toNat h
        simp only [hlead, UInt8.reduceToNat] at h
        simp only [Nat.isValidChar] at hvalid
        exact within_ofNat (by simp only [UInt8.reduceToNat]; omega)
          (by simp only [UInt8.reduceToNat]; omega)
    · exact continues_ofNat _

/-- The second byte of a character of four bytes keeps to the range that its lead byte allows. -/
theorem followsFour_ofNat {v : Nat} (hlow : 0x10000 ≤ v) (hhigh : v < 0x110000) :
    followsFour (UInt8.ofNat (v / 262144 % 8 + 240)) (UInt8.ofNat (v / 4096 % 64 + 128)) =
      true := by
  have hlead : (UInt8.ofNat (v / 262144 % 8 + 240)).toNat = v / 262144 % 8 + 240 :=
    toNat_ofNat (by omega)
  rw [followsFour]
  split
  · next h =>
      have h := congrArg UInt8.toNat h
      simp only [hlead, UInt8.reduceToNat] at h
      exact within_ofNat (by simp only [UInt8.reduceToNat]; omega)
        (by simp only [UInt8.reduceToNat]; omega)
  · split
    · next h =>
        have h := congrArg UInt8.toNat h
        simp only [hlead, UInt8.reduceToNat] at h
        exact within_ofNat (by simp only [UInt8.reduceToNat]; omega)
          (by simp only [UInt8.reduceToNat]; omega)
    · exact continues_ofNat _

theorem char_ofNat_two {v : Nat} (h : v < 0x800) :
    char ((UInt8.ofNat (v / 64 % 32 + 192)).toNat % 32) [UInt8.ofNat (v % 64 + 128)] =
      Char.ofNat v := by
  simp only [char, List.foldl_cons, List.foldl_nil]
  rw [toNat_ofNat (by omega), toNat_ofNat (by omega)]
  congr 1
  omega

theorem char_ofNat_three {v : Nat} (h : v < 0x10000) :
    char ((UInt8.ofNat (v / 4096 % 16 + 224)).toNat % 16)
      [UInt8.ofNat (v / 64 % 64 + 128), UInt8.ofNat (v % 64 + 128)] = Char.ofNat v := by
  simp only [char, List.foldl_cons, List.foldl_nil]
  rw [toNat_ofNat (by omega), toNat_ofNat (by omega), toNat_ofNat (by omega)]
  congr 1
  omega

theorem char_ofNat_four {v : Nat} (h : v < 0x110000) :
    char ((UInt8.ofNat (v / 262144 % 8 + 240)).toNat % 8)
      [UInt8.ofNat (v / 4096 % 64 + 128), UInt8.ofNat (v / 64 % 64 + 128),
        UInt8.ofNat (v % 64 + 128)] = Char.ofNat v := by
  simp only [char, List.foldl_cons, List.foldl_nil]
  rw [toNat_ofNat (by omega), toNat_ofNat (by omega), toNat_ofNat (by omega),
    toNat_ofNat (by omega)]
  congr 1
  omega

/-! ## Texts -/

/-- The encoding of a character is scanned as that character, whatever stands behind it. -/
theorem scan_encodeChar (c : Char) (rest : Octets) :
    scan (String.utf8EncodeChar c ++ rest) = some c :: scan rest := by
  have hvalid : c.val.toNat.isValidChar := c.valid
  have hchar : Char.ofNat c.val.toNat = c := Char.ofNat_toNat c
  simp only [String.utf8EncodeChar]
  generalize c.val.toNat = v at hvalid hchar
  have hbound : v < 0x110000 := by
    simp only [Nat.isValidChar] at hvalid
    omega
  split
  · next hone =>
      have ha : (UInt8.ofNat v).toNat = v := toNat_ofNat (by omega)
      have hlt : UInt8.ofNat v < 0x80 := by
        rw [UInt8.lt_iff_toNat_lt, ha]
        exact Nat.lt_succ_of_le hone
      rw [List.singleton_append, scan_one rest hlt, ha, char, List.foldl_nil, hchar]
  · split
    · have ha : within 0xc2 0xdf (UInt8.ofNat (v / 64 % 32 + 192)) = true :=
        within_ofNat (by simp only [UInt8.reduceToNat]; omega)
          (by simp only [UInt8.reduceToNat]; omega)
      have hscan := scan_two rest ha (continues_ofNat v)
      rwa [char_ofNat_two (by omega), hchar] at hscan
    · split
      · have ha : within 0xe0 0xef (UInt8.ofNat (v / 4096 % 16 + 224)) = true :=
          within_ofNat (by simp only [UInt8.reduceToNat]; omega)
            (by simp only [UInt8.reduceToNat]; omega)
        have hb := followsThree_ofNat (by omega) (by omega) hvalid
        have hscan := scan_three rest ha hb (continues_ofNat v)
        rwa [char_ofNat_three (by omega), hchar] at hscan
      · have ha : within 0xf0 0xf4 (UInt8.ofNat (v / 262144 % 8 + 240)) = true :=
          within_ofNat (by simp only [UInt8.reduceToNat]; omega)
            (by simp only [UInt8.reduceToNat]; omega)
        have hb := followsFour_ofNat (by omega) hbound
        have hscan := scan_four rest ha hb (continues_ofNat (v / 64)) (continues_ofNat v)
        rwa [char_ofNat_four hbound, hchar] at hscan

/-- The encoding of a text is scanned as that text, without a mark. -/
theorem scan_encode (text : List Char) : scan (encode text) = text.map some := by
  induction text with
  | nil => rfl
  | cons c text ih => rw [encode_cons, scan_encodeChar, ih, List.map_cons]

theorem decode?_encode (text : List Char) : decode? (encode text) = some text := by
  rw [decode?, scan_encode]
  induction text with
  | nil => rfl
  | cons c text ih => simp [List.mapM_cons, ih]

/-- The byte strings that are read as text are the bytes of that text. -/
theorem string?_eq_some_iff {content : Octets} {text : String} :
    string? content = some text ↔ bytes text = content := by
  constructor
  · intro h
    obtain ⟨chars, hchars, rfl⟩ := Option.map_eq_some_iff.mp h
    rw [bytes, String.toList_ofList]
    exact encode_of_scan (scan_eq_of_decode? hchars)
  · rintro rfl
    rw [string?, bytes, decode?_encode, Option.map_some, String.ofList_toList]

/-- The bytes of a string are shown as that string. -/
theorem lossy_bytes (text : String) : lossy (bytes text) = text := by
  rw [lossy, bytes, scan_encode, List.map_map]
  simp only [Function.comp_def, Option.getD_some, List.map_id', String.ofList_toList]

/-- A byte string is well-formed text if it is the encoding of some string. -/
def WellFormed (content : Octets) : Prop :=
  ∃ text : String, bytes text = content

/-- Well-formed texts that are shown alike are the same bytes. -/
theorem lossy_injOn : Set.InjOn lossy {content | WellFormed content} := by
  rintro _ ⟨text, rfl⟩ _ ⟨text', rfl⟩ h
  rw [lossy_bytes, lossy_bytes] at h
  rw [h]

end LedgerExport.Utf8
