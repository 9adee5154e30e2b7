import LedgerExport.Text.Base32
import Mathlib.Logic.Function.Basic

/-!
# Base32 texts are read back

Writing cuts the bits of a byte string into groups of five and fills up the last
one; reading puts them together again in groups of eight and is left with the
filling. So a byte string is read back from its text, and no two have the same.
Reading refuses a filling that is too long or not zero, and so accepts nothing but
these texts.
-/

namespace LedgerExport.Base32

/-! ## Groups of bits -/

theorem bits_number (a b c d e : Bool) : bits 5 (number [a, b, c, d, e]) = [a, b, c, d, e] := by
  revert a b c d e
  decide

theorem value?_letter (a b c d e : Bool) :
    value? (letter (number [a, b, c, d, e])) = some (number [a, b, c, d, e]) := by
  revert a b c d e
  decide

theorem ofNat_number_bits (b : UInt8) : UInt8.ofNat (number (bits 8 b.toNat)) = b := by
  have h : ∀ n < 256, number (bits 8 n) = n := by decide +kernel
  rw [h b.toNat b.toNat_lt, UInt8.ofNat_toNat]

/-- The letters of some bits are read as these bits and fewer than five zeros. -/
def Spells (text : List Char) (digits : List Bool) : Prop :=
  ∃ values filling, text.mapM value? = some values ∧
    values.flatMap (bits 5) = digits ++ List.replicate filling false ∧ filling < 5

theorem spells_group {a b c d e : Bool} {digits : List Bool} (filling : Nat)
    (h : [a, b, c, d, e] = digits ++ List.replicate filling false) (hfilling : filling < 5) :
    Spells [letter (number [a, b, c, d, e])] digits := by
  refine ⟨[number [a, b, c, d, e]], filling, ?_, ?_, hfilling⟩
  · rw [List.mapM_cons, value?_letter]
    rfl
  · rw [List.flatMap_singleton, bits_number, h]

theorem spells_letters (digits : List Bool) : Spells (letters digits) digits := by
  fun_induction letters digits with
  | case1 a b c d e rest ih =>
      obtain ⟨values, filling, hvalues, hbits, hfilling⟩ := ih
      refine ⟨number [a, b, c, d, e] :: values, filling, ?_, ?_, hfilling⟩
      · rw [List.mapM_cons, value?_letter, hvalues]
        rfl
      · rw [List.flatMap_cons, bits_number, hbits]
        rfl
  | case2 => exact ⟨[], 0, rfl, rfl, by decide⟩
  | case3 rest hfive hnil =>
      -- The last group has from one to four bits, and is filled up to five.
      match rest with
      | [] => exact absurd rfl hnil
      | [a] => exact spells_group 4 rfl (by decide)
      | [a, b] => exact spells_group 3 rfl (by decide)
      | [a, b, c] => exact spells_group 2 rfl (by decide)
      | [a, b, c, d] => exact spells_group 1 rfl (by decide)
      | a :: b :: c :: d :: e :: rest => exact absurd rfl (hfive a b c d e rest)

/-! ## Bytes -/

theorem gather_filling {filling : Nat} (h : filling < 5) :
    gather (List.replicate filling false) = some [] := by
  match filling, h with
  | 0, _ => rfl
  | 1, _ => rfl
  | 2, _ => rfl
  | 3, _ => rfl
  | 4, _ => rfl

theorem gather_byte (byte : UInt8) (rest : List Bool) :
    gather (bits 8 byte.toNat ++ rest) = (gather rest).map (byte :: ·) := by
  have hbyte := ofNat_number_bits byte
  simp only [bits] at hbyte
  simp only [bits, List.cons_append, List.nil_append, gather, hbyte]

theorem gather_append (bytes : Octets) (rest : List Bool) :
    gather ((bytes.flatMap fun b => bits 8 b.toNat) ++ rest) =
      (gather rest).map (bytes ++ ·) := by
  induction bytes with
  | nil => simp
  | cons byte bytes ih =>
      rw [List.flatMap_cons, List.append_assoc, gather_byte, ih, Option.map_map]
      rfl

/-- A byte string is read back from its text. -/
theorem decode?_encode (bytes : Octets) : decode? (encode bytes) = some bytes := by
  obtain ⟨values, filling, hvalues, hbits, hfilling⟩ :=
    spells_letters (bytes.flatMap fun b => bits 8 b.toNat)
  rw [decode?, encode, hvalues]
  calc
    gather (values.flatMap (bits 5)) =
        (gather (List.replicate filling false)).map (bytes ++ ·) := by rw [hbits, gather_append]
    _ = some bytes := by rw [gather_filling hfilling, Option.map_some, List.append_nil]

theorem encode_injective : Function.Injective encode := by
  intro bytes bytes' h
  have hread := decode?_encode bytes
  rw [h, decode?_encode] at hread
  exact (Option.some.inj hread).symm

/-! ## What is read -/

theorem letter_of_value? {c : Char} {n : Nat} (h : value? c = some n) :
    n < 32 ∧ letter n = c := by
  unfold value? at h
  split at h
  · next hletter =>
      cases h
      have hn : c.toNat - 65 < 26 := by omega
      refine ⟨by omega, ?_⟩
      rw [letter, if_pos hn, Nat.add_sub_cancel' hletter.1, Char.ofNat_toNat]
  · split at h
    · next hdigit =>
        cases h
        have hn : ¬c.toNat - 24 < 26 := by omega
        refine ⟨by omega, ?_⟩
        rw [letter, if_neg hn, Nat.add_sub_cancel' (by omega), Char.ofNat_toNat]
    · cases h

theorem number_bits {n : Nat} (h : n < 32) : number (bits 5 n) = n := by
  have hall : ∀ n < 32, number (bits 5 n) = n := by decide
  exact hall n h

theorem bits_ofNat_number (a b c d e f g h : Bool) :
    bits 8 (UInt8.ofNat (number [a, b, c, d, e, f, g, h])).toNat = [a, b, c, d, e, f, g, h] := by
  revert a b c d e f g h
  decide +kernel

theorem length_bits (width n : Nat) : (bits width n).length = width := by
  induction width with
  | zero => rfl
  | succ width ih => rw [bits, List.length_cons, ih]

theorem length_flatMap_of_width {α : Type} {emit : α → List Bool} {width : Nat}
    (h : ∀ a, (emit a).length = width) (values : List α) :
    (values.flatMap emit).length = width * values.length := by
  induction values with
  | nil => rfl
  | cons a values ih =>
      rw [List.flatMap_cons, List.length_append, ih, h, List.length_cons, Nat.mul_succ,
        Nat.add_comm]

/-- The characters that spell some numbers are the letters of these. -/
theorem map_letter_of_mapM {text : List Char} {values : List Nat}
    (h : text.mapM value? = some values) :
    values.map (fun n => letter (number (bits 5 n))) = text := by
  induction text generalizing values with
  | nil =>
      cases h
      rfl
  | cons c text ih =>
      rw [List.mapM_cons] at h
      obtain ⟨n, hn, h⟩ := Option.bind_eq_some_iff.mp h
      obtain ⟨more, hmore, h⟩ := Option.bind_eq_some_iff.mp h
      cases h
      obtain ⟨hlt, hletter⟩ := letter_of_value? hn
      rw [List.map_cons, ih hmore, number_bits hlt, hletter]

/-- From one to four digits become one letter. -/
theorem letters_of_short {digits : List Bool} (hnil : digits ≠ []) (hshort : digits.length < 5) :
    letters digits = [letter (number (digits ++ List.replicate (5 - digits.length) false))] := by
  match digits, hnil with
  | [a], _ => rfl
  | [a, b], _ => rfl
  | [a, b, c], _ => rfl
  | [a, b, c, d], _ => rfl

/-- Digits that are those of some numbers, save for fewer than five zeros, are written as the letters
of these numbers. -/
theorem letters_of_filled {values : List Nat} {digits : List Bool} {filling : Nat}
    (h : values.flatMap (bits 5) = digits ++ List.replicate filling false) (hfilling : filling < 5) :
    letters digits = values.map fun n => letter (number (bits 5 n)) := by
  induction values generalizing digits with
  | nil =>
      obtain ⟨rfl, -⟩ := List.append_eq_nil_iff.mp h.symm
      rfl
  | cons n values ih =>
      rw [List.flatMap_cons] at h
      have hlength := congrArg List.length h
      rw [List.length_append, List.length_append, length_bits,
        length_flatMap_of_width (length_bits 5), List.length_replicate] at hlength
      by_cases hfive : 5 ≤ digits.length
      · -- The digits of the first number are all there, so the zeros stand behind later ones.
        obtain ⟨rest, rfl⟩ : bits 5 n <+: digits :=
          List.prefix_of_prefix_length_le ⟨_, h⟩ ⟨_, rfl⟩ hfive
        rw [List.append_assoc] at h
        have hrest := ih (List.append_cancel_left h)
        show letter (number (bits 5 n)) :: letters rest = _
        rw [hrest, List.map_cons]
      · -- There are no more numbers, since fewer than five digits and zeros are left for them.
        have hnone : values.length = 0 := by omega
        have hcount : 5 - digits.length = filling := by omega
        have hnil : digits ≠ [] := List.ne_nil_of_length_pos (by omega)
        obtain rfl : values = [] := List.length_eq_zero_iff.mp hnone
        rw [List.flatMap_nil, List.append_nil] at h
        rw [letters_of_short hnil (by omega), hcount, ← h, List.map_singleton]

/-- What is gathered are the bits of the bytes and fewer than five zeros. -/
theorem bits_of_gather {digits : List Bool} {bytes : Octets}
    (hgather : gather digits = some bytes) : ∃ filling < 5, digits =
      (bytes.flatMap fun b => bits 8 b.toNat) ++ List.replicate filling false := by
  fun_induction gather digits generalizing bytes with
  | case1 a b c d e f g h rest ih =>
      obtain ⟨more, hmore, rfl⟩ := Option.map_eq_some_iff.mp hgather
      obtain ⟨filling, hfilling, hrest⟩ := ih hmore
      refine ⟨filling, hfilling, ?_⟩
      rw [List.flatMap_cons, bits_ofNat_number, List.append_assoc, ← hrest]
      rfl
  | case2 rest _ hzeros =>
      cases hgather
      refine ⟨rest.length, hzeros.1, ?_⟩
      have hfalse : ∀ b ∈ rest, b = false := by simpa using hzeros.2
      exact List.eq_replicate_of_mem hfalse
  | case3 => cases hgather

/-- A text spells nothing but the digits that it is written from. -/
theorem Spells.letters_eq {text : List Char} {digits : List Bool} (h : Spells text digits) :
    letters digits = text := by
  obtain ⟨values, filling, hvalues, hdigits, hfilling⟩ := h
  rw [letters_of_filled hdigits hfilling, map_letter_of_mapM hvalues]

/-- A text is read as a byte string exactly if it is the text of that byte string. -/
theorem decode?_eq_some_iff {text : List Char} {bytes : Octets} :
    decode? text = some bytes ↔ encode bytes = text := by
  constructor
  · intro h
    obtain ⟨values, hvalues, hgather⟩ := Option.bind_eq_some_iff.mp h
    obtain ⟨filling, hfilling, hdigits⟩ := bits_of_gather hgather
    exact Spells.letters_eq ⟨values, filling, hvalues, hdigits, hfilling⟩
  · rintro rfl
    exact decode?_encode bytes

/-! ## What is written -/

/-- The characters that a text may have. -/
def alphabet : List Char :=
  "ABCDEFGHIJKLMNOPQRSTUVWXYZ234567".toList

theorem letter_mem_alphabet (a b c d e : Bool) : letter (number [a, b, c, d, e]) ∈ alphabet := by
  revert a b c d e
  decide +kernel

/-- A text has only characters of the alphabet. -/
theorem encode_subset_alphabet (bytes : Octets) : encode bytes ⊆ alphabet := by
  obtain ⟨values, filling, hvalues, -, -⟩ := spells_letters (bytes.flatMap fun b => bits 8 b.toNat)
  intro c hc
  rw [encode, ← map_letter_of_mapM hvalues] at hc
  obtain ⟨n, -, rfl⟩ := List.mem_map.mp hc
  exact letter_mem_alphabet _ _ _ _ _

/-- A text has a character for every five bits. -/
theorem length_encode (bytes : Octets) : (encode bytes).length = (8 * bytes.length + 4) / 5 := by
  obtain ⟨values, filling, hvalues, hdigits, hfilling⟩ :=
    spells_letters (bytes.flatMap fun b => bits 8 b.toNat)
  have htext : (encode bytes).length = values.length := by
    rw [encode, ← map_letter_of_mapM hvalues, List.length_map]
  have hlength := congrArg List.length hdigits
  rw [length_flatMap_of_width (length_bits 5), List.length_append,
    length_flatMap_of_width fun b : UInt8 => length_bits 8 b.toNat, List.length_replicate]
    at hlength
  rw [htext]
  omega

end LedgerExport.Base32
