import LedgerExport.Proofs.Text.Blank

/-!
# Texts of ASCII

A character of ASCII is a single byte, and no byte of another character is one. So
a text of such characters has as many bytes as characters, such texts are ordered
as their bytes are, and a mark of ASCII stands in a text just if its byte stands
among the bytes. A text is cut at a mark into what stands in front of the first
one and what stands behind it.
-/

namespace LedgerExport

namespace Utf8

theorem encodeChar_of_lt {c : Char} (h : c.toNat < 128) :
    String.utf8EncodeChar c = [UInt8.ofNat c.toNat] := by
  have hsize : c.utf8Size = 1 := by
    rw [Char.utf8Size_eq_one_iff, UInt32.le_iff_toNat_le]
    exact Nat.le_of_lt_succ h
  exact String.utf8EncodeChar_eq_singleton hsize

theorem encode_of_lt {text : List Char} (h : ∀ c ∈ text, c.toNat < 128) :
    encode text = text.map fun c => UInt8.ofNat c.toNat := by
  induction text with
  | nil => rfl
  | cons c text ih =>
      obtain ⟨hc, htext⟩ := List.forall_mem_cons.mp h
      rw [encode_cons, encodeChar_of_lt hc, ih htext, List.map_cons, List.singleton_append]

theorem length_encode_of_lt {text : List Char} (h : ∀ c ∈ text, c.toNat < 128) :
    (encode text).length = text.length := by
  rw [encode_of_lt h, List.length_map]

theorem ofNat_lt_ofNat_iff {m n : Nat} (hm : m < 256) (hn : n < 256) :
    UInt8.ofNat m < UInt8.ofNat n ↔ m < n := by
  rw [UInt8.lt_iff_toNat_lt, toNat_ofNat hm, toNat_ofNat hn]

/-- Texts of ASCII are ordered as their bytes are. -/
theorem encode_lt_encode_iff {text more : List Char} (h : ∀ c ∈ text, c.toNat < 128)
    (h' : ∀ c ∈ more, c.toNat < 128) : encode text < encode more ↔ text < more := by
  rw [encode_of_lt h, encode_of_lt h']
  induction text generalizing more with
  | nil => cases more <;> simp
  | cons c text ih =>
      cases more with
      | nil => simp
      | cons d more =>
          obtain ⟨hc, htext⟩ := List.forall_mem_cons.mp h
          obtain ⟨hd, hmore⟩ := List.forall_mem_cons.mp h'
          have hlt : UInt8.ofNat c.toNat < UInt8.ofNat d.toNat ↔ c < d :=
            ofNat_lt_ofNat_iff (by omega) (by omega)
          have heq : UInt8.ofNat c.toNat = UInt8.ofNat d.toNat ↔ c = d := by
            rw [← UInt8.toNat_inj, toNat_ofNat (by omega), toNat_ofNat (by omega)]
            exact Char.toNat_inj
          rw [List.map_cons, List.map_cons, List.cons_lt_cons_iff, List.cons_lt_cons_iff, hlt, heq,
            ih htext hmore]

/-- A mark of ASCII stands in a text just if its byte stands among the bytes. -/
theorem ofNat_mem_encode_iff {mark : Char} (hmark : mark.toNat < 128) {text : List Char} :
    UInt8.ofNat mark.toNat ∈ encode text ↔ mark ∈ text := by
  constructor
  · intro h
    have hbyte : (UInt8.ofNat mark.toNat).toNat = mark.toNat := toNat_ofNat (by omega)
    have hlow : UInt8.ofNat mark.toNat < 0x80 := by
      rw [UInt8.lt_iff_toNat_lt, hbyte]
      exact hmark
    obtain ⟨c, hc, hnumber⟩ := exists_of_mem_encode hlow h
    rwa [← Char.toNat_inj.mp (hnumber.trans hbyte)]
  · intro h
    refine List.mem_flatMap.mpr ⟨mark, h, ?_⟩
    rw [encodeChar_of_lt hmark]
    exact List.mem_singleton_self _

/-- A text and its bytes are cut at the same mark of ASCII. -/
theorem takeWhile_encode {mark : Char} (hmark : mark.toNat < 128) (text : List Char) :
    (encode text).takeWhile (· != UInt8.ofNat mark.toNat) = encode (text.takeWhile (· != mark)) := by
  induction text with
  | nil => rfl
  | cons c text ih =>
      by_cases hc : c = mark
      · subst hc
        simp [encode_cons, encodeChar_of_lt hmark, encode_nil]
      · have hbytes : ∀ b ∈ String.utf8EncodeChar c, (b != UInt8.ofNat mark.toNat) = true := by
          intro b hb
          rw [bne_iff_ne]
          rintro rfl
          have hmem : mark ∈ [c] := (ofNat_mem_encode_iff hmark).mp (by simpa [encode] using hb)
          exact hc (List.mem_singleton.mp hmem).symm
        have hkeep : (c :: text).takeWhile (· != mark) = c :: text.takeWhile (· != mark) :=
          List.takeWhile_cons_of_pos (bne_iff_ne.mpr hc)
        rw [encode_cons, List.takeWhile_append_of_pos hbytes, ih, hkeep, encode_cons]

end Utf8

/-! ## Cutting at a mark -/

section Cut

variable {mark : Char} {text front rest : List Char}

theorem bne_of_mem_of_notMem {c : Char} (hmark : mark ∉ front) (hc : c ∈ front) :
    (c != mark) = true := by
  rw [bne_iff_ne]
  rintro rfl
  exact hmark hc

theorem takeWhile_of_cut (hmark : mark ∉ front) :
    (front ++ mark :: rest).takeWhile (· != mark) = front := by
  rw [List.takeWhile_append_of_pos fun c hc => bne_of_mem_of_notMem hmark hc]
  simp

theorem dropWhile_of_cut (hmark : mark ∉ front) :
    (front ++ mark :: rest).dropWhile (· != mark) = mark :: rest := by
  rw [List.dropWhile_append_of_pos fun c hc => bne_of_mem_of_notMem hmark hc]
  simp

/-- What is left behind the characters that are no mark starts with the first mark. -/
theorem cut_of_dropWhile {c : Char} (h : text.dropWhile (· != mark) = c :: rest) :
    text = text.takeWhile (· != mark) ++ mark :: rest ∧ mark ∉ text.takeWhile (· != mark) := by
  obtain rfl : c = mark := by
    have hhead := List.head?_dropWhile_not (· != mark) text
    rw [h] at hhead
    simpa using hhead
  constructor
  · rw [← h, List.takeWhile_append_dropWhile]
  · intro hmem
    have hne := List.all_eq_true.mp List.all_takeWhile c hmem
    exact bne_iff_ne.mp hne rfl

end Cut

end LedgerExport
