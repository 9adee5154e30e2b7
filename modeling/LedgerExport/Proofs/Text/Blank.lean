import LedgerExport.Proofs.Text.WellFormed
import LedgerExport.Text.Blank

/-!
# White space around a text

Blanks at the ends of a text are trimmed, and what lies between a first and a last
character that are none stays as it is.
-/

namespace LedgerExport

/-! ## Trimming -/

theorem trimStart_append_of_blank {before : List Char} (h : ∀ c ∈ before, isBlank c = true)
    (text : List Char) : trimStart (before ++ text) = trimStart text :=
  List.dropWhile_append_of_pos h

theorem trimStart_of_head {text : List Char} (h : ∀ c ∈ text.head?, isBlank c = false) :
    trimStart text = text := by
  cases text with
  | nil => rfl
  | cons c text =>
      have hc : isBlank c = false := h c rfl
      exact List.dropWhile_cons_of_neg (by simp [hc])

theorem trim_of_blank {text : List Char} (h : ∀ c ∈ text, isBlank c = true) : trim text = [] := by
  have hstart := trimStart_append_of_blank h []
  rw [List.append_nil] at hstart
  rw [trim, hstart]
  rfl

/-- Blanks around a text are trimmed, if it begins and ends with other characters. -/
theorem trim_between {before inner after : List Char} (hbefore : ∀ c ∈ before, isBlank c = true)
    (hafter : ∀ c ∈ after, isBlank c = true) (hne : inner ≠ [])
    (hfirst : ∀ c ∈ inner.head?, isBlank c = false)
    (hlast : ∀ c ∈ inner.getLast?, isBlank c = false) :
    trim (before ++ inner ++ after) = inner := by
  have hbehind : ∀ c ∈ after.reverse, isBlank c = true :=
    fun c hc => hafter c (List.mem_reverse.mp hc)
  have hfront : trimStart (inner ++ after) = inner ++ after := by
    apply trimStart_of_head
    cases inner with
    | nil => exact absurd rfl hne
    | cons c inner => exact hfirst
  have hback : trimStart inner.reverse = inner.reverse := by
    apply trimStart_of_head
    rwa [List.head?_reverse]
  calc
    trim (before ++ inner ++ after)
      = (trimStart (inner ++ after).reverse).reverse := by
        rw [trim, List.append_assoc, trimStart_append_of_blank hbefore, hfront]
    _ = (trimStart inner.reverse).reverse := by
        rw [List.reverse_append, trimStart_append_of_blank hbehind]
    _ = inner := by rw [hback, List.reverse_reverse]

theorem trim_of_not_blank {text : List Char} (h : ∀ c ∈ text, isBlank c = false) :
    trim text = text := by
  by_cases hne : text = []
  · rw [hne]
    rfl
  · have htrim := trim_between (List.forall_mem_nil (isBlank · = true))
      (List.forall_mem_nil (isBlank · = true)) hne (fun c hc => h c (List.mem_of_mem_head? hc))
      fun c hc => h c (List.mem_of_getLast? hc)
    rwa [List.nil_append, List.append_nil] at htrim

namespace Utf8

/-! ## Bytes and characters -/

theorem encode_append (text more : List Char) :
    encode (text ++ more) = encode text ++ encode more :=
  List.flatMap_append

/-- The characters of ASCII. -/
def ascii (bytes : Octets) : List Char :=
  bytes.map fun b => char b.toNat []

theorem encode_ascii {bytes : Octets} (h : ∀ b ∈ bytes, b < 0x80) :
    encode (ascii bytes) = bytes := by
  induction bytes with
  | nil => rfl
  | cons b bytes ih =>
      obtain ⟨hb, hbytes⟩ := List.forall_mem_cons.mp h
      have hmore : encode (ascii bytes) = bytes := ih hbytes
      rw [ascii, List.map_cons, encode_cons, encodeChar_one hb, List.singleton_append]
      exact congrArg (b :: ·) hmore

/-- A byte of ASCII is the whole of its character. -/
theorem toNat_of_mem_encodeChar {c : Char} {b : UInt8} (hb : b < 0x80)
    (h : b ∈ String.utf8EncodeChar c) : c.toNat = b.toNat := by
  have hlow : b.toNat < 128 := UInt8.lt_iff_toNat_lt.mp hb
  have hne : ∀ n, 128 ≤ n → n < 256 → b ≠ UInt8.ofNat n := by
    intro n hle hlt heq
    rw [heq, toNat_ofNat hlt] at hlow
    omega
  have hbound : c.val.toNat < 0x110000 := by
    have hvalid : c.val.toNat.isValidChar := c.valid
    simp only [Nat.isValidChar] at hvalid
    omega
  simp only [Char.toNat, String.utf8EncodeChar] at h ⊢
  generalize c.val.toNat = v at hbound h ⊢
  split at h
  · rw [List.mem_singleton.mp h, toNat_ofNat (by omega)]
  · -- every byte of a longer sequence has its highest bit set
    split at h
    · simp only [List.mem_cons, List.not_mem_nil, or_false,
        hne (v / 64 % 32 + 192) (by omega) (by omega),
        hne (v % 64 + 128) (by omega) (by omega)] at h
    · split at h
      · simp only [List.mem_cons, List.not_mem_nil, or_false,
          hne (v / 4096 % 16 + 224) (by omega) (by omega),
          hne (v / 64 % 64 + 128) (by omega) (by omega),
          hne (v % 64 + 128) (by omega) (by omega)] at h
      · simp only [List.mem_cons, List.not_mem_nil, or_false,
          hne (v / 262144 % 8 + 240) (by omega) (by omega),
          hne (v / 4096 % 64 + 128) (by omega) (by omega),
          hne (v / 64 % 64 + 128) (by omega) (by omega),
          hne (v % 64 + 128) (by omega) (by omega)] at h

theorem exists_of_mem_encode {text : List Char} {b : UInt8} (hb : b < 0x80)
    (h : b ∈ encode text) : ∃ c ∈ text, c.toNat = b.toNat := by
  obtain ⟨c, hc, hmem⟩ := List.mem_flatMap.mp h
  exact ⟨c, hc, toNat_of_mem_encodeChar hb hmem⟩

end Utf8

end LedgerExport
