import LedgerExport.Text.Utf8

/-!
# Well-formed text has one byte string

A scan that finds a character in every place has read the encoding of those
characters. So a byte string that is shown without a replacement character is
the encoding of what is shown, and no byte string that is not text is ever shown
as a text of the ordinary alphabet.
-/

namespace LedgerExport.Utf8

theorem within_iff {low high byte : UInt8} :
    within low high byte = true ↔ low.toNat ≤ byte.toNat ∧ byte.toNat ≤ high.toNat := by
  simp only [within, decide_eq_true_eq, UInt8.le_iff_toNat_le]

theorem continues_iff {byte : UInt8} :
    continues byte = true ↔ 0x80 ≤ byte.toNat ∧ byte.toNat ≤ 0xbf := by
  simp only [continues, within_iff, UInt8.reduceToNat]

/-- The second byte continues a sequence, and one lead byte raises its lower bound while another
lowers its upper bound. -/
theorem follows_bounds {low lowLead high highLead lead second : UInt8} (hne : lowLead ≠ highLead)
    (hlow : 0x80 ≤ low.toNat) (hhigh : high.toNat ≤ 0xbf)
    (h : (if lead = lowLead then within low 0xbf second
      else if lead = highLead then within 0x80 high second
      else continues second) = true) :
    0x80 ≤ second.toNat ∧ second.toNat ≤ 0xbf ∧
      (lead.toNat = lowLead.toNat → low.toNat ≤ second.toNat) ∧
      (lead.toNat = highLead.toNat → second.toNat ≤ high.toNat) := by
  have hlead {a b : UInt8} (hab : a ≠ b) : a.toNat ≠ b.toNat := fun e => hab (UInt8.toNat_inj.mp e)
  have hne := hlead hne
  split at h
  · next he =>
      subst he
      simp only [within_iff, UInt8.reduceToNat] at h
      omega
  · next hlow' =>
      have hlow' := hlead hlow'
      split at h
      · next he =>
          subst he
          simp only [within_iff, UInt8.reduceToNat] at h
          omega
      · next hhigh' =>
          have hhigh' := hlead hhigh'
          rw [continues_iff] at h
          omega

/-- After its lead byte, a three-byte sequence spells neither an overlong form nor a surrogate. -/
theorem followsThree_bounds {lead second : UInt8} (h : followsThree lead second = true) :
    0x80 ≤ second.toNat ∧ second.toNat ≤ 0xbf ∧
      (lead.toNat = 0xe0 → 0xa0 ≤ second.toNat) ∧
      (lead.toNat = 0xed → second.toNat ≤ 0x9f) :=
  follows_bounds (by decide) (by decide) (by decide) h

/-- After its lead byte, a four-byte sequence spells a number between `0x10000` and `0x10ffff`. -/
theorem followsFour_bounds {lead second : UInt8} (h : followsFour lead second = true) :
    0x80 ≤ second.toNat ∧ second.toNat ≤ 0xbf ∧
      (lead.toNat = 0xf0 → 0x90 ≤ second.toNat) ∧
      (lead.toNat = 0xf4 → second.toNat ≤ 0x8f) :=
  follows_bounds (by decide) (by decide) (by decide) h

theorem val_ofNat {n : Nat} (h : n.isValidChar) : (Char.ofNat n).val.toNat = n := by
  rw [Char.ofNat, dif_pos h]
  rfl

theorem ofNat_eq_of_toNat {n : Nat} (b : UInt8) (h : n = b.toNat) : UInt8.ofNat n = b := by
  rw [h, UInt8.ofNat_toNat]

/-- A byte below `0x80` is the encoding of the character that it spells. -/
theorem encodeChar_one {a : UInt8} (ha : a < 0x80) :
    String.utf8EncodeChar (char a.toNat []) = [a] := by
  have hlt : a.toNat < 0x80 := UInt8.lt_iff_toNat_lt.mp ha
  have hvalid : a.toNat.isValidChar := Or.inl (by omega)
  have hval : (char a.toNat []).val.toNat = a.toNat := val_ofNat hvalid
  simp only [String.utf8EncodeChar, hval]
  rw [if_pos (by omega), UInt8.ofNat_toNat]

/-- A sequence of two bytes is the encoding of the character that it spells. -/
theorem encodeChar_two {a b : UInt8} (ha : within 0xc2 0xdf a = true) (hb : continues b = true) :
    String.utf8EncodeChar (char (a.toNat % 32) [b]) = [a, b] := by
  simp only [within_iff, UInt8.reduceToNat] at ha
  rw [continues_iff] at hb
  have hvalid : (a.toNat % 32 * 64 + b.toNat % 64).isValidChar := Or.inl (by omega)
  have hval : (char (a.toNat % 32) [b]).val.toNat = a.toNat % 32 * 64 + b.toNat % 64 :=
    val_ofNat hvalid
  simp only [String.utf8EncodeChar, hval]
  rw [if_neg (by omega), if_pos (by omega), ofNat_eq_of_toNat a (by omega),
    ofNat_eq_of_toNat b (by omega)]

/-- A sequence of three bytes is the encoding of the character that it spells. -/
theorem encodeChar_three {a b c : UInt8} (ha : within 0xe0 0xef a = true)
    (hb : followsThree a b = true) (hc : continues c = true) :
    String.utf8EncodeChar (char (a.toNat % 16) [b, c]) = [a, b, c] := by
  simp only [within_iff, UInt8.reduceToNat] at ha
  obtain ⟨hlow, hhigh, hover, hsurrogate⟩ := followsThree_bounds hb
  rw [continues_iff] at hc
  have hvalid : ((a.toNat % 16 * 64 + b.toNat % 64) * 64 + c.toNat % 64).isValidChar := by
    by_cases hd : a.toNat ≤ 0xed
    · exact Or.inl (by omega)
    · exact Or.inr (by omega)
  have hval : (char (a.toNat % 16) [b, c]).val.toNat =
      (a.toNat % 16 * 64 + b.toNat % 64) * 64 + c.toNat % 64 := val_ofNat hvalid
  simp only [String.utf8EncodeChar, hval]
  rw [if_neg (by omega), if_neg (by omega), if_pos (by omega),
    ofNat_eq_of_toNat a (by omega), ofNat_eq_of_toNat b (by omega),
    ofNat_eq_of_toNat c (by omega)]

/-- A sequence of four bytes is the encoding of the character that it spells. -/
theorem encodeChar_four {a b c d : UInt8} (ha : within 0xf0 0xf4 a = true)
    (hb : followsFour a b = true) (hc : continues c = true) (hd : continues d = true) :
    String.utf8EncodeChar (char (a.toNat % 8) [b, c, d]) = [a, b, c, d] := by
  simp only [within_iff, UInt8.reduceToNat] at ha
  obtain ⟨hlow, hhigh, hover, hlast⟩ := followsFour_bounds hb
  rw [continues_iff] at hc hd
  have hvalid :
      (((a.toNat % 8 * 64 + b.toNat % 64) * 64 + c.toNat % 64) * 64 + d.toNat % 64).isValidChar :=
    Or.inr (by omega)
  have hval : (char (a.toNat % 8) [b, c, d]).val.toNat =
      ((a.toNat % 8 * 64 + b.toNat % 64) * 64 + c.toNat % 64) * 64 + d.toNat % 64 :=
    val_ofNat hvalid
  simp only [String.utf8EncodeChar, hval]
  rw [if_neg (by omega), if_neg (by omega), if_neg (by omega),
    ofNat_eq_of_toNat a (by omega), ofNat_eq_of_toNat b (by omega),
    ofNat_eq_of_toNat c (by omega), ofNat_eq_of_toNat d (by omega)]

@[simp] theorem encode_nil : encode [] = [] := rfl

theorem encode_cons (c : Char) (text : List Char) :
    encode (c :: text) = String.utf8EncodeChar c ++ encode text := by
  simp only [encode, List.flatMap_cons]

theorem exists_of_cons_eq_map_some {c : Char} {rest : List (Option Char)} {text : List Char}
    (h : some c :: rest = text.map some) :
    ∃ more, text = c :: more ∧ rest = more.map some := by
  cases text with
  | nil => simp at h
  | cons d more =>
      simp only [List.map_cons, List.cons.injEq, Option.some.injEq] at h
      exact ⟨more, by rw [h.1], h.2⟩

theorem none_cons_ne_map_some {rest : List (Option Char)} {text : List Char} :
    none :: rest ≠ text.map some := by
  cases text <;> simp

/-- A scan without a mark has read the encoding of its characters. -/
theorem encode_of_scan {bytes : Octets} {text : List Char} (h : scan bytes = text.map some) :
    encode text = bytes := by
  -- Only whole sequences give characters; the other branches of the scan give a mark.
  fun_induction scan bytes generalizing text with
  | case1 =>
      rw [List.map_eq_nil_iff.mp h.symm, encode_nil]
  | case2 a rest ha ih =>
      obtain ⟨more, rfl, hmore⟩ := exists_of_cons_eq_map_some h
      rw [encode_cons, encodeChar_one ha, ih hmore]
      rfl
  | case3 a _ ha b rest hb ih =>
      obtain ⟨more, rfl, hmore⟩ := exists_of_cons_eq_map_some h
      rw [encode_cons, encodeChar_two ha hb, ih hmore]
      rfl
  | case6 a _ _ ha b hb c rest hc ih =>
      obtain ⟨more, rfl, hmore⟩ := exists_of_cons_eq_map_some h
      rw [encode_cons, encodeChar_three ha hb hc, ih hmore]
      rfl
  | case11 a _ _ _ ha b hb c hc d rest hd ih =>
      obtain ⟨more, rfl, hmore⟩ := exists_of_cons_eq_map_some h
      rw [encode_cons, encodeChar_four ha hb hc hd, ih hmore]
      rfl
  | _ => exact absurd h none_cons_ne_map_some

/-- A byte string shown without the replacement character is the encoding of what is shown. -/
theorem bytes_lossy {content : Octets} (h : '\ufffd' ∉ (lossy content).toList) :
    bytes (lossy content) = content := by
  rw [bytes]
  apply encode_of_scan
  simp only [lossy, String.toList_ofList, List.mem_map, not_exists, not_and] at h ⊢
  rw [List.map_map]
  symm
  calc
    (scan content).map (some ∘ fun c => c.getD '\ufffd') = (scan content).map id := by
      apply List.map_congr_left
      intro c hc
      cases c with
      | none => exact absurd rfl (h none hc)
      | some c => rfl
    _ = scan content := List.map_id _

/-- A byte string that is read as text scans to its characters. -/
theorem scan_eq_of_decode? {bytes : Octets} {text : List Char} (h : decode? bytes = some text) :
    scan bytes = text.map some := by
  rw [decode?] at h
  generalize scan bytes = scanned at h
  induction scanned generalizing text with
  | nil =>
      cases h
      rfl
  | cons c scanned ih =>
      simp only [List.mapM_cons, Option.bind_eq_bind, Option.bind_eq_some_iff] at h
      obtain ⟨first, rfl, more, hmore, h⟩ := h
      cases h
      rw [ih hmore, List.map_cons]

/-- Well-formed text is shown as it is. -/
theorem lossy_of_string? {bytes : Octets} {text : String} (h : string? bytes = some text) :
    lossy bytes = text := by
  obtain ⟨chars, hchars, rfl⟩ := Option.map_eq_some_iff.mp h
  rw [lossy, scan_eq_of_decode? hchars, List.map_map]
  exact congrArg String.ofList (List.map_id chars)

end LedgerExport.Utf8
