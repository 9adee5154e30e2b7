import LedgerExport.Proofs.Bytes.RoundTrip
import LedgerExport.Text.Base64

/-!
# Base64 is read back

Every byte string is read back from its base64 text, and the reading ends without
a fault. A group is taken apart into numbers of six bits and put together again
as one number, in which nothing but its width matters.
-/

namespace LedgerExport

namespace Base64

/-! ## Groups -/

theorem value?_letter {n : Nat} (h : n < 64) : value? (letter n) = some n := by
  have hall : ∀ n < 64, value? (letter n) = some n := by decide +kernel
  exact hall n h

theorem letter_ne_padding {n : Nat} (h : n < 64) : letter n ≠ padding := by
  have hall : ∀ n < 64, letter n ≠ padding := by decide +kernel
  exact hall n h

section Groups

variable {a b c d : Nat} (ha : a < 64) (hb : b < 64)

include ha hb

theorem group?_letters (hc : c < 64) (hd : d < 64) :
    group? (letter a) (letter b) (letter c) (letter d) =
      some (BigEndian.write 3 (a * 262144 + b * 4096 + c * 64 + d) []) := by
  simp only [group?, value?_letter ha, value?_letter hb, value?_letter hc, value?_letter hd,
    letter_ne_padding hd, if_false, Option.bind_eq_bind, Option.bind_some]

theorem group?_one_filled (hc : c < 64) (hspare : c % 4 = 0) :
    group? (letter a) (letter b) (letter c) padding =
      some (BigEndian.write 2 (a * 1024 + b * 16 + c / 4) []) := by
  simp only [group?, value?_letter ha, value?_letter hb, value?_letter hc, letter_ne_padding hc,
    hspare, if_true, if_false, Option.bind_eq_bind, Option.bind_some]

theorem group?_two_filled (hspare : b % 16 = 0) :
    group? (letter a) (letter b) padding padding = some [UInt8.ofNat (a * 4 + b / 16)] := by
  simp only [group?, value?_letter ha, value?_letter hb, hspare, if_true, Option.bind_eq_bind,
    Option.bind_some]

end Groups

/-! ## Texts -/

/-- A byte string is read back from its text, without a fault. -/
theorem decode_encode (bytes : Octets) : decode (encode bytes) = ⟨bytes, true⟩ := by
  fun_induction encode bytes with
  | case1 a b c rest n ih =>
      have hn : n < 256 ^ 3 := BigEndian.read_lt [a, b, c]
      have hbytes : BigEndian.write 3 n [] = [a, b, c] := BigEndian.write_read [a, b, c]
      have hnumber :
          n / 262144 * 262144 + n / 4096 % 64 * 4096 + n / 64 % 64 * 64 + n % 64 = n := by
        omega
      rw [decode, group?_letters (by omega) (by omega) (by omega) (by omega), hnumber, hbytes, ih]
      simp only [letter_ne_padding (Nat.mod_lt n (by decide : 0 < 64)), if_false]
      rfl
  | case2 a b n =>
      have hn : n < 256 ^ 2 := BigEndian.read_lt [a, b]
      have hbytes : BigEndian.write 2 n [] = [a, b] := BigEndian.write_read [a, b]
      have hnumber : n / 1024 * 1024 + n / 16 % 64 * 16 + n % 16 * 4 / 4 = n := by omega
      rw [decode, group?_one_filled (by omega) (by omega) (by omega) (by omega), hnumber, hbytes]
      rfl
  | case3 a =>
      have ha := a.toNat_lt
      have hnumber : a.toNat / 4 * 4 + a.toNat % 4 * 16 / 16 = a.toNat := by omega
      rw [decode, group?_two_filled (by omega) (by omega) (by omega), hnumber, UInt8.ofNat_toNat]
      rfl
  | case4 => rfl

/-! ## Characters -/

/-- A character of ASCII that is neither blank nor a control character. -/
def Visible (c : UInt8) : Prop :=
  33 ≤ c.toNat ∧ c.toNat ≤ 126

instance : DecidablePred Visible :=
  fun c => inferInstanceAs (Decidable (33 ≤ c.toNat ∧ c.toNat ≤ 126))

theorem visible_letter {n : Nat} (h : n < 64) : Visible (letter n) := by
  have hall : ∀ n < 64, Visible (letter n) := by decide +kernel
  exact hall n h

theorem visible_of_mem_encode {bytes : Octets} : ∀ c ∈ encode bytes, Visible c := by
  have hpadding : Visible padding := by decide
  fun_induction encode bytes with
  | case1 a b c rest n ih =>
      have hn : n < 256 ^ 3 := BigEndian.read_lt [a, b, c]
      simp only [List.forall_mem_cons]
      exact ⟨visible_letter (by omega), visible_letter (by omega), visible_letter (by omega),
        visible_letter (by omega), ih⟩
  | case2 a b n =>
      have hn : n < 256 ^ 2 := BigEndian.read_lt [a, b]
      simp only [List.forall_mem_cons]
      exact ⟨visible_letter (by omega), visible_letter (by omega), visible_letter (by omega),
        hpadding, List.forall_mem_nil _⟩
  | case3 a =>
      have ha := a.toNat_lt
      simp only [List.forall_mem_cons]
      exact ⟨visible_letter (by omega), visible_letter (by omega), hpadding, hpadding,
        List.forall_mem_nil _⟩
  | case4 => exact List.forall_mem_nil _

theorem encode_ne_nil {bytes : Octets} (h : bytes ≠ []) : encode bytes ≠ [] := by
  fun_cases encode bytes with
  | case1 => exact List.cons_ne_nil _ _
  | case2 => exact List.cons_ne_nil _ _
  | case3 => exact List.cons_ne_nil _ _
  | case4 => exact absurd rfl h

end Base64

end LedgerExport
