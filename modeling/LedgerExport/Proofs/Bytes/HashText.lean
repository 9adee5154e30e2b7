import LedgerExport.Proofs.Bytes.RoundTrip
import LedgerExport.Proofs.Except
import LedgerExport.Proofs.Text.Ascii
import Mathlib.Data.List.Basic

/-!
# Texts of hashes are read exactly

The digits that are read have the values of the halves of the bytes that are written.
So a text is read as a hash exactly if it has sixty-four digits of either case, it is
then the text of that hash but for the case, and any other text is refused for the
first thing that is wrong with it. The texts of hashes are ordered as the hashes are.

## Implementation notes

Digits are read as bytes. That no byte of a longer character is taken for a digit
comes from `Utf8.ofNat_mem_encode_iff`.
-/

namespace LedgerExport

namespace Hex

/-- The digits that are read, of either case. -/
def readable : List Char :=
  "0123456789abcdefABCDEF".toList

/-- The values of the digits of a byte string, the high half of a byte first. -/
def halves (bytes : Octets) : List Nat :=
  bytes.flatMap fun b => [b.toNat / 16, b.toNat % 16]

theorem halves_cons (b : UInt8) (bytes : Octets) :
    halves (b :: bytes) = b.toNat / 16 :: b.toNat % 16 :: halves bytes := rfl

theorem length_halves (bytes : Octets) : (halves bytes).length = 2 * bytes.length := by
  induction bytes with
  | nil => rfl
  | cons b bytes ih =>
      rw [halves_cons, List.length_cons, List.length_cons, ih, List.length_cons]
      omega

theorem digits_eq_map_halves (bytes : Octets) : digits bytes = (halves bytes).map digit := by
  rw [digits, halves, List.map_flatMap]
  rfl

/-! ## One digit -/

theorem toNat_lt_of_mem_readable {c : Char} (h : c ∈ readable) : c.toNat < 128 := by
  have hall : readable.all (·.toNat < 128) = true := by decide
  exact of_decide_eq_true (List.all_eq_true.mp hall c h)

/-- The digits are the bytes of three ranges. -/
theorem mem_encode_readable_iff {byte : UInt8} :
    byte ∈ Utf8.encode readable ↔ 48 ≤ byte.toNat ∧ byte.toNat ≤ 57 ∨
      97 ≤ byte.toNat ∧ byte.toNat ≤ 102 ∨ 65 ≤ byte.toNat ∧ byte.toNat ≤ 70 := by
  have hranges : (Utf8.encode readable).map UInt8.toNat =
      List.range' 48 10 ++ (List.range' 97 6 ++ List.range' 65 6) := by decide
  rw [← List.mem_map_of_injective (fun _ _ => UInt8.toNat_inj.mp), hranges, List.mem_append,
    List.mem_append, List.mem_range'_1, List.mem_range'_1, List.mem_range'_1]
  omega

/-- A byte has a value if it is one of the digits. -/
theorem isSome_value?_iff {byte : UInt8} :
    (value? byte).isSome = true ↔ byte ∈ Utf8.encode readable := by
  rw [mem_encode_readable_iff, value?]
  split
  · next h => exact iff_of_true rfl (.inl h)
  · split
    · next h => exact iff_of_true rfl (.inr (.inl h))
    · split
      · next h => exact iff_of_true rfl (.inr (.inr h))
      · exact iff_of_false Bool.false_ne_true (by omega)

/-- The digit of a value is the lower-case form of every digit that has the value. -/
theorem digit_of_value? {c : Char} (h : c ∈ readable) {n : Nat}
    (hvalue : value? (UInt8.ofNat c.toNat) = some n) : digit n = c.toLower := by
  have hall : (readable.all fun c =>
      (value? (UInt8.ofNat c.toNat)).all fun n => digit n == c.toLower) = true := by
    decide
  have hdigit := List.all_eq_true.mp hall c h
  rw [hvalue] at hdigit
  exact eq_of_beq hdigit

theorem value?_lt {byte : UInt8} {n : Nat} (h : value? byte = some n) : n < 16 := by
  rw [value?] at h
  split at h
  · cases h
    omega
  · split at h
    · cases h
      omega
    · split at h
      · cases h
        omega
      · cases h

/-! ## Reading digits -/

/-- The value of the digit at a place. -/
def valueAt (index : Nat) (byte : UInt8) : Except Fault Nat :=
  match value? byte with
  | some n => .ok n
  | none => .error (.invalidDigit byte index)

theorem valueAt_eq_ok_iff {index : Nat} {byte : UInt8} {n : Nat} :
    valueAt index byte = .ok n ↔ value? byte = some n := by
  unfold valueAt
  cases value? byte with
  | some m => simp
  | none => simp

theorem valueAt_eq_error_iff {index : Nat} {byte : UInt8} {fault : Fault} :
    valueAt index byte = .error fault ↔
      byte ∉ Utf8.encode readable ∧ fault = .invalidDigit byte index := by
  rw [← isSome_value?_iff, valueAt]
  cases value? byte with
  | some m => simp
  | none => simp [eq_comm]

/-- The values of the digits from a place on. -/
def valuesFrom (index : Nat) (digits : Octets) : Except Fault (List Nat) :=
  (digits.mapIdx fun i byte => valueAt (index + i) byte).mapM id

theorem valuesFrom_cons (index : Nat) (byte : UInt8) (digits : Octets) :
    valuesFrom index (byte :: digits) = do
      let n ← valueAt index byte
      return n :: (← valuesFrom (index + 1) digits) := by
  have hplaces : (fun i byte => valueAt (index + (i + 1)) byte) =
      fun i byte => valueAt (index + 1 + i) byte := by
    funext i byte
    rw [Nat.add_assoc, Nat.add_comm 1]
  rw [valuesFrom, List.mapIdx_cons, hplaces, List.mapM_cons]
  rfl

/-- The bytes whose halves have the values. -/
def join : List Nat → Octets
  | high :: low :: values => UInt8.ofNat (16 * high + low) :: join values
  | _ => []

theorem join_halves (bytes : Octets) : join (halves bytes) = bytes := by
  induction bytes with
  | nil => rfl
  | cons b bytes ih =>
      rw [halves_cons, join, ih, Nat.div_add_mod, UInt8.ofNat_toNat]

/-- Values of digits, as many as for whole bytes, are the halves of the bytes that they make. -/
theorem halves_join {values : List Nat} (heven : values.length % 2 = 0)
    (hvalues : ∀ n ∈ values, n < 16) : halves (join values) = values := by
  fun_induction join values with
  | case1 high low values ih =>
      obtain ⟨hhigh, hlow, hmore⟩ := by simpa only [List.forall_mem_cons] using hvalues
      have hbyte : (UInt8.ofNat (16 * high + low)).toNat = 16 * high + low :=
        Utf8.toNat_ofNat (by omega)
      have hdiv : (16 * high + low) / 16 = high := by omega
      have hmod : (16 * high + low) % 16 = low := by omega
      have heven : values.length % 2 = 0 := by simpa [Nat.add_assoc] using heven
      rw [halves_cons, hbyte, hdiv, hmod, ih heven hmore]
  | case2 values hshort =>
      cases values with
      | nil => rfl
      | cons high values =>
          cases values with
          | nil => cases heven
          | cons low values => exact absurd rfl (hshort high low values)

/-- Digits are read one by one, and their values are joined. -/
theorem decodeFrom_eq_map_valuesFrom {index : Nat} {digits : Octets}
    (heven : digits.length % 2 = 0) :
    decodeFrom index digits = (valuesFrom index digits).map join := by
  fun_induction decodeFrom index digits with
  | case1 index high low rest hhigh =>
      rw [valuesFrom_cons, valueAt, hhigh]
      rfl
  | case2 index high low rest h hlow hhigh =>
      rw [valuesFrom_cons, valuesFrom_cons, valueAt, valueAt, hhigh, hlow]
      rfl
  | case3 index high low rest h l hlow hhigh bytes hbytes ih =>
      have heven : rest.length % 2 = 0 := by simpa [Nat.add_assoc] using heven
      rw [ih heven, map_eq_ok_iff] at hbytes
      obtain ⟨values, hvalues, rfl⟩ := hbytes
      rw [valuesFrom_cons, valuesFrom_cons, valueAt, valueAt, hhigh, hlow, hvalues]
      rfl
  | case4 index high low rest h l hlow hhigh fault hfault ih =>
      have heven : rest.length % 2 = 0 := by simpa [Nat.add_assoc] using heven
      rw [ih heven, map_eq_error_iff] at hfault
      rw [valuesFrom_cons, valuesFrom_cons, valueAt, valueAt, hhigh, hlow, hfault]
      rfl
  | case5 digits index hshort =>
      cases digits with
      | nil => rfl
      | cons high digits =>
          cases digits with
          | nil => cases heven
          | cons low digits => exact absurd rfl (hshort high low digits)

/-- Digits have values if each of them has one. -/
theorem valuesFrom_eq_ok_iff {index : Nat} {digits : Octets} {values : List Nat} :
    valuesFrom index digits = .ok values ↔ digits.map value? = values.map some := by
  induction digits generalizing index values with
  | nil =>
      rw [List.map_nil, eq_comm (a := []), List.map_eq_nil_iff]
      exact pure_eq_ok_iff.trans eq_comm
  | cons byte digits ih =>
      rw [valuesFrom_cons, bind_eq_ok_iff, List.map_cons]
      simp only [bind_eq_ok_iff, pure_eq_ok_iff, valueAt_eq_ok_iff, ih]
      constructor
      · rintro ⟨n, hn, more, hmore, rfl⟩
        rw [hn, hmore, List.map_cons]
      · intro h
        obtain ⟨n, more, rfl, hn, hmore⟩ := List.map_eq_cons_iff.mp h.symm
        exact ⟨n, hn.symm, more, hmore.symm, rfl⟩

/-- The first byte that is no digit is reported, with its place. -/
theorem valuesFrom_eq_error_iff {digits : Octets} {fault : Fault} :
    valuesFrom 0 digits = .error fault ↔
      ∃ index byte, digits[index]? = some byte ∧ byte ∉ Utf8.encode readable ∧
        (∀ j < index, ∀ b, digits[j]? = some b → b ∈ Utf8.encode readable) ∧
        fault = .invalidDigit byte index := by
  have hstep {j : Nat} {e : Fault} :
      (digits.mapIdx fun i byte => valueAt (0 + i) byte)[j]? = some (.error e) ↔
        ∃ byte, digits[j]? = some byte ∧ byte ∉ Utf8.encode readable ∧
          e = .invalidDigit byte j := by
    rw [List.getElem?_mapIdx, Option.map_eq_some_iff]
    simp only [valueAt_eq_error_iff, Nat.zero_add]
  rw [valuesFrom, mapM_eq_error_iff, FirstError]
  simp only [ne_eq, hstep]
  constructor
  · rintro ⟨index, ⟨byte, hbyte, hdigit, rfl⟩, hfirst⟩
    refine ⟨index, byte, hbyte, hdigit, fun j hj b hb => ?_, rfl⟩
    by_contra hnot
    exact hfirst j hj _ ⟨b, hb, hnot, rfl⟩
  · rintro ⟨index, byte, hbyte, hdigit, hfirst, rfl⟩
    refine ⟨index, ⟨byte, hbyte, hdigit, rfl⟩, ?_⟩
    rintro j hj _ ⟨b, hb, hnot, -⟩
    exact hnot (hfirst j hj b hb)

/-- A text of bytes is decoded if it has the halves of the bytes as the values of its digits. -/
theorem decode_eq_ok_iff {digits bytes : Octets} :
    decode digits = .ok bytes ↔ digits.map value? = (halves bytes).map some := by
  rw [decode]
  split
  · next hodd =>
      constructor
      · intro h
        cases h
      · intro h
        have hlength := congrArg List.length h
        rw [List.length_map, List.length_map, length_halves] at hlength
        omega
  · next heven =>
      have heven : digits.length % 2 = 0 := by omega
      rw [decodeFrom_eq_map_valuesFrom heven, map_eq_ok_iff]
      simp only [valuesFrom_eq_ok_iff]
      constructor
      · rintro ⟨values, hvalues, rfl⟩
        rw [halves_join]
        · exact hvalues
        · have hlength := congrArg List.length hvalues
          rw [List.length_map, List.length_map] at hlength
          omega
        · intro n hn
          have hmem : some n ∈ digits.map value? := hvalues ▸ List.mem_map_of_mem hn
          obtain ⟨byte, -, hvalue⟩ := List.mem_map.mp hmem
          exact value?_lt hvalue
      · intro h
        exact ⟨halves bytes, h, join_halves bytes⟩

theorem decode_eq_error_iff {digits : Octets} {fault : Fault} :
    decode digits = .error fault ↔
      digits.length % 2 = 1 ∧ fault = .oddLength ∨
      digits.length % 2 = 0 ∧ ∃ index byte, digits[index]? = some byte ∧
        byte ∉ Utf8.encode readable ∧
        (∀ j < index, ∀ b, digits[j]? = some b → b ∈ Utf8.encode readable) ∧
        fault = .invalidDigit byte index := by
  rw [decode]
  split
  · next hodd => simp [hodd, eq_comm]
  · next heven =>
      have heven : digits.length % 2 = 0 := by omega
      rw [decodeFrom_eq_map_valuesFrom heven, map_eq_error_iff, valuesFrom_eq_error_iff]
      simp [heven]

theorem length_of_decode {digits bytes : Octets} (h : decode digits = .ok bytes) :
    digits.length = 2 * bytes.length := by
  have hlength := congrArg List.length (decode_eq_ok_iff.mp h)
  rwa [List.length_map, List.length_map, length_halves] at hlength

theorem subset_of_decode {digits bytes : Octets} (h : decode digits = .ok bytes) :
    digits ⊆ Utf8.encode readable := by
  intro byte hbyte
  rw [← isSome_value?_iff, Option.isSome_iff_exists]
  have hmem : value? byte ∈ (halves bytes).map some :=
    decode_eq_ok_iff.mp h ▸ List.mem_map_of_mem hbyte
  obtain ⟨n, -, hn⟩ := List.mem_map.mp hmem
  exact ⟨n, hn.symm⟩

theorem exists_decode_iff {digits : Octets} :
    (∃ bytes, decode digits = .ok bytes) ↔
      digits.length % 2 = 0 ∧ digits ⊆ Utf8.encode readable := by
  constructor
  · rintro ⟨bytes, h⟩
    have hlength := length_of_decode h
    exact ⟨by omega, subset_of_decode h⟩
  · rintro ⟨heven, hdigits⟩
    rw [exists_ok_iff]
    intro fault hfault
    rcases decode_eq_error_iff.mp hfault with ⟨hodd, -⟩ | ⟨-, index, byte, hbyte, hnot, -⟩
    · omega
    · exact hnot (hdigits (List.mem_of_getElem? hbyte))

/-! ## Texts -/

/-- The bytes of a text are digits exactly if its characters are. -/
theorem encode_subset_iff {text : List Char} :
    Utf8.encode text ⊆ Utf8.encode readable ↔ text ⊆ readable := by
  constructor
  · intro h c hc
    obtain ⟨byte, hbyte⟩ := List.exists_mem_of_ne_nil _ (String.utf8EncodeChar_ne_nil (c := c))
    have hmem : byte ∈ Utf8.encode readable := h (List.mem_flatMap.mpr ⟨c, hc, hbyte⟩)
    obtain ⟨d, hd, hdbyte⟩ := List.mem_flatMap.mp hmem
    have hlow := toNat_lt_of_mem_readable hd
    rw [Utf8.encodeChar_of_lt hlow, List.mem_singleton] at hdbyte
    rw [hdbyte] at hbyte
    have hsame : d ∈ [c] := (Utf8.ofNat_mem_encode_iff hlow).mp (by simpa [Utf8.encode] using hbyte)
    rwa [← List.mem_singleton.mp hsame]
  · intro h byte hbyte
    obtain ⟨c, hc, hbyte⟩ := List.mem_flatMap.mp hbyte
    exact List.mem_flatMap.mpr ⟨c, h hc, hbyte⟩

theorem length_bytes {text : String} (h : text.toList ⊆ readable) :
    (Utf8.bytes text).length = text.toList.length :=
  Utf8.length_encode_of_lt fun _ hc => toNat_lt_of_mem_readable (h hc)

theorem toList_toLower (text : String) : text.toLower.toList = text.toList.map (·.toLower) := by
  show (text.map Char.toLower).toList = _
  rw [String.toList_map]

/-- A text of digits is the text of what it is decoded to, but for the case. -/
theorem text_of_decode {text : String} {bytes : Octets}
    (h : decode (Utf8.bytes text) = .ok bytes) :
    text.toList ⊆ readable ∧ Hex.text bytes = text.toLower := by
  have hdigits : text.toList ⊆ readable := encode_subset_iff.mp (subset_of_decode h)
  refine ⟨hdigits, ?_⟩
  rw [decode_eq_ok_iff, Utf8.bytes] at h
  rw [Utf8.encode_of_lt fun c hc => toNat_lt_of_mem_readable (hdigits hc), List.map_map] at h
  rw [Hex.text, digits_eq_map_halves, ← String.toList_inj, String.toList_ofList, toList_toLower]
  generalize text.toList = chars at h hdigits
  generalize halves bytes = values at h
  induction chars generalizing values with
  | nil => rw [List.map_eq_nil_iff.mp h.symm]; rfl
  | cons c chars ih =>
      obtain ⟨n, more, rfl, hn, hmore⟩ := List.map_eq_cons_iff.mp h.symm
      obtain ⟨hc, hchars⟩ := List.cons_subset.mp hdigits
      rw [List.map_cons, List.map_cons, digit_of_value? hc hn.symm, ih hchars more hmore.symm]

/-! ## Order -/

theorem toNat_digit {n : Nat} (h : n < 16) :
    (digit n).toNat = if n < 10 then 48 + n else 87 + n := by
  have hall : ∀ n < 16, (digit n).toNat = if n < 10 then 48 + n else 87 + n := by decide
  exact hall n h

theorem digit_lt_digit_iff {m n : Nat} (hm : m < 16) (hn : n < 16) :
    digit m < digit n ↔ m < n := by
  rw [Char.lt_def, UInt32.lt_iff_toNat_lt]
  show (digit m).toNat < (digit n).toNat ↔ m < n
  rw [toNat_digit hm, toNat_digit hn]
  split <;> split <;> omega

theorem digit_eq_digit_iff {m n : Nat} (hm : m < 16) (hn : n < 16) :
    digit m = digit n ↔ m = n := by
  rw [← Char.toNat_inj, toNat_digit hm, toNat_digit hn]
  split <;> split <;> omega

/-- Byte strings are ordered as their digits are. -/
theorem digits_lt_digits_iff {bytes more : Octets} : digits bytes < digits more ↔ bytes < more := by
  induction bytes generalizing more with
  | nil => cases more <;> simp [digits]
  | cons b bytes ih =>
      cases more with
      | nil => simp [digits]
      | cons b' more =>
          have hb := b.toNat_lt
          have hb' := b'.toNat_lt
          rw [digits_eq_map_halves, digits_eq_map_halves, halves_cons, halves_cons, List.map_cons,
            List.map_cons, List.map_cons, List.map_cons, ← digits_eq_map_halves,
            ← digits_eq_map_halves, List.cons_lt_cons_iff, List.cons_lt_cons_iff,
            List.cons_lt_cons_iff, ih, digit_lt_digit_iff (by omega) (by omega),
            digit_lt_digit_iff (by omega) (by omega), digit_eq_digit_iff (by omega) (by omega),
            digit_eq_digit_iff (by omega) (by omega), UInt8.lt_iff_toNat_lt, ← UInt8.toNat_inj]
          -- the high halves decide, or they are equal and the low halves decide
          constructor
          · rintro (hhigh | ⟨hhigh, hlow | ⟨hlow, hmore⟩⟩)
            · exact .inl (by omega)
            · exact .inl (by omega)
            · exact .inr ⟨by omega, hmore⟩
          · rintro (hlt | ⟨heq, hmore⟩)
            · rcases Nat.lt_or_ge (b.toNat / 16) (b'.toNat / 16) with hhigh | hhigh
              · exact .inl hhigh
              · exact .inr ⟨by omega, .inl (by omega)⟩
            · rw [heq]
              exact .inr ⟨rfl, .inr ⟨rfl, hmore⟩⟩

end Hex

namespace Hash

/-- What is wrong with the text of a hash, given as its bytes: of an odd number of bytes, a byte that
is no digit and another length than that of a hash the first that applies, and of several bytes that
are no digits the first one. -/
inductive Misspelt (bytes : Octets) : Hex.Fault → Prop
  | oddLength (h : bytes.length % 2 = 1) : Misspelt bytes .oddLength
  | invalidDigit {index : Nat} {byte : UInt8} (heven : bytes.length % 2 = 0)
      (hbyte : bytes[index]? = some byte) (hdigit : byte ∉ Utf8.encode Hex.readable)
      (hfirst : ∀ j < index, ∀ b, bytes[j]? = some b → b ∈ Utf8.encode Hex.readable) :
      Misspelt bytes (.invalidDigit byte index)
  | wrongLength (heven : bytes.length % 2 = 0) (hdigits : bytes ⊆ Utf8.encode Hex.readable)
      (h : bytes.length ≠ 64) : Misspelt bytes .wrongLength

theorem length_text (hash : Hash) : hash.text.toList.length = 64 := by
  rw [text, Hex.text, String.toList_ofList, Hex.digits_eq_map_halves, List.length_map,
    Hex.length_halves, hash.length_bytes]

theorem parse_eq_ok_iff {text : String} {hash : Hash} :
    parse text = .ok hash ↔ Hex.decode (Utf8.bytes text) = .ok hash.bytes := by
  unfold parse
  cases Hex.decode (Utf8.bytes text) with
  | error fault => exact iff_of_false nofun nofun
  | ok bytes =>
      rw [Except.ok.injEq, ← FixedBytes.ofList?_eq_some_iff]
      dsimp only
      cases FixedBytes.ofList? 32 bytes <;> simp

theorem exists_parse_iff {text : String} :
    (∃ hash, parse text = .ok hash) ↔
      text.toList.length = 64 ∧ text.toList ⊆ Hex.readable := by
  simp only [parse_eq_ok_iff]
  constructor
  · rintro ⟨hash, h⟩
    obtain ⟨hdigits, -⟩ := Hex.text_of_decode h
    have hlength := Hex.length_of_decode h
    rw [Hex.length_bytes hdigits, hash.length_bytes] at hlength
    exact ⟨hlength, hdigits⟩
  · rintro ⟨hlength, hdigits⟩
    rw [← Hex.length_bytes hdigits] at hlength
    have heven : (Utf8.bytes text).length % 2 = 0 := by rw [hlength]
    obtain ⟨bytes, hbytes⟩ :=
      Hex.exists_decode_iff.mpr ⟨heven, Hex.encode_subset_iff.mpr hdigits⟩
    have hhalf : (Utf8.bytes text).length = 2 * bytes.length := Hex.length_of_decode hbytes
    exact ⟨⟨bytes, by omega⟩, hbytes⟩

/-- A text is read as the hash of which it is the text, but for the case. -/
theorem parse_eq_ok_iff_toLower {text : String} {hash : Hash} :
    parse text = .ok hash ↔ text.toList ⊆ Hex.readable ∧ hash.text = text.toLower := by
  constructor
  · exact fun h => Hex.text_of_decode (parse_eq_ok_iff.mp h)
  · rintro ⟨hdigits, htext⟩
    have hlength : text.toList.length = 64 := by
      have hcount := congrArg (·.toList.length) htext
      rw [Hex.toList_toLower, List.length_map, hash.length_text] at hcount
      exact hcount.symm
    obtain ⟨hash', h⟩ := exists_parse_iff.mpr ⟨hlength, hdigits⟩
    obtain ⟨-, htext'⟩ := Hex.text_of_decode (parse_eq_ok_iff.mp h)
    have hsame : hash' = hash := FixedBytes.ext (Hex.text_injective (htext'.trans htext.symm))
    rw [h, hsame]

theorem parse_eq_error_iff {text : String} {fault : Hex.Fault} :
    parse text = .error fault ↔
      Hex.decode (Utf8.bytes text) = .error fault ∨
      fault = .wrongLength ∧ ∃ bytes, Hex.decode (Utf8.bytes text) = .ok bytes ∧
        bytes.length ≠ 32 := by
  unfold parse
  cases Hex.decode (Utf8.bytes text) with
  | error reason => simp
  | ok bytes =>
      dsimp only [FixedBytes.ofList?]
      by_cases hlength : bytes.length = 32
      · simp [hlength]
      · simp [hlength, eq_comm]

/-- A text is refused for the first thing that is wrong with it. -/
theorem parse_eq_error_iff_misspelt {text : String} {fault : Hex.Fault} :
    parse text = .error fault ↔ Misspelt (Utf8.bytes text) fault := by
  rw [parse_eq_error_iff, Hex.decode_eq_error_iff]
  constructor
  · rintro ((⟨hodd, rfl⟩ | ⟨heven, index, byte, hbyte, hdigit, hfirst, rfl⟩) |
      ⟨rfl, bytes, hbytes, hlength⟩)
    · exact .oddLength hodd
    · exact .invalidDigit heven hbyte hdigit hfirst
    · have hhalf := Hex.length_of_decode hbytes
      exact .wrongLength (by omega) (Hex.subset_of_decode hbytes) (by omega)
  · rintro (hodd | ⟨heven, hbyte, hdigit, hfirst⟩ | ⟨heven, hdigits, hlength⟩)
    · exact .inl (.inl ⟨hodd, rfl⟩)
    · exact .inl (.inr ⟨heven, _, _, hbyte, hdigit, hfirst, rfl⟩)
    · obtain ⟨bytes, hbytes⟩ := Hex.exists_decode_iff.mpr ⟨heven, hdigits⟩
      have hhalf := Hex.length_of_decode hbytes
      exact .inr ⟨rfl, bytes, hbytes, by omega⟩

theorem bytes_text_lt_iff (hash hash' : Hash) :
    Utf8.bytes hash.text < Utf8.bytes hash'.text ↔ hash < hash' := by
  have hlow (hash : Hash) : ∀ c ∈ hash.text.toList, c.toNat < 128 := fun c hc =>
    Hex.toNat_lt_of_mem_readable ((Hex.text_of_decode (Hex.decode_text hash.bytes)).1 hc)
  rw [Utf8.bytes, Utf8.bytes, Utf8.encode_lt_encode_iff (hlow hash) (hlow hash'), text, text,
    Hex.text, Hex.text, String.toList_ofList, String.toList_ofList]
  exact Hex.digits_lt_digits_iff

/-- A text is read as a hash exactly if it has sixty-four digits of either case, and the hash is the
one of which it is the text in lower case. A hash is read from its text, and the texts of hashes are
ordered, byte by byte, as the hashes are. A text that is not read is refused for the first thing that
is wrong with it. -/
theorem texts_read_exactly :
    (∀ text : String, (∃ hash, parse text = .ok hash) ↔
      text.toList.length = 64 ∧ text.toList ⊆ Hex.readable) ∧
    (∀ (text : String) (hash : Hash),
      parse text = .ok hash ↔ text.toList ⊆ Hex.readable ∧ hash.text = text.toLower) ∧
    (∀ hash : Hash, parse hash.text = .ok hash) ∧
    (∀ hash hash' : Hash, hash < hash' ↔ Utf8.bytes hash.text < Utf8.bytes hash'.text) ∧
    ∀ (text : String) (fault : Hex.Fault),
      parse text = .error fault ↔ Misspelt (Utf8.bytes text) fault :=
  ⟨fun _ => exists_parse_iff, fun _ _ => parse_eq_ok_iff_toLower, parse_text,
    fun hash hash' => (bytes_text_lt_iff hash hash').symm, fun _ _ => parse_eq_error_iff_misspelt⟩

end Hash

end LedgerExport
