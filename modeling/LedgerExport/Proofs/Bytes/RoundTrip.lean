import LedgerExport.Bytes.HashText
import LedgerExport.Proofs.Text.Utf8
import Mathlib.Logic.Function.Basic
import Mathlib.Tactic.Ring

/-!
# Bytes are read back

A big-endian word is read back up to its width, and a byte string is written again
from the number that it spells. A byte string is read back from its hexadecimal
digits, two of which spell a byte. So no two byte strings have the same digits.
-/

namespace LedgerExport

namespace BigEndian

theorem foldl_write (width n start : Nat) :
    (write width n []).foldl (fun n b => n * 256 + b.toNat) start =
      start * 256 ^ width + n % 256 ^ width := by
  induction width generalizing start with
  | zero => simp [write, Nat.mod_one]
  | succ width ih =>
      have hbyte : (UInt8.ofNat (n / Nat.pow 256 width)).toNat = n / 256 ^ width % 256 :=
        UInt8.toNat_ofNat'
      have hmod : n % 256 ^ (width + 1) = n % 256 ^ width + 256 ^ width * (n / 256 ^ width % 256) :=
        Nat.mod_pow_succ
      rw [write, List.foldl_cons, ih, hbyte, hmod, Nat.pow_succ]
      ring

theorem read_write (width n : Nat) : read (write width n []) = n % 256 ^ width := by
  rw [read, foldl_write, Nat.zero_mul, Nat.zero_add]

theorem foldl_eq_add (bytes : Octets) (start : Nat) :
    bytes.foldl (fun n b => n * 256 + b.toNat) start =
      start * 256 ^ bytes.length + read bytes := by
  induction bytes generalizing start with
  | nil => simp [read]
  | cons b bytes ih =>
      rw [read, List.foldl_cons, List.foldl_cons, ih, ih (0 * 256 + b.toNat), List.length_cons,
        Nat.pow_succ]
      ring

theorem read_cons (b : UInt8) (bytes : Octets) :
    read (b :: bytes) = b.toNat * 256 ^ bytes.length + read bytes := by
  rw [read, List.foldl_cons, Nat.zero_mul, Nat.zero_add, foldl_eq_add]

theorem read_lt (bytes : Octets) : read bytes < 256 ^ bytes.length := by
  induction bytes with
  | nil => decide
  | cons b bytes ih =>
      have hb : (b.toNat + 1) * 256 ^ bytes.length ≤ 256 * 256 ^ bytes.length :=
        Nat.mul_le_mul_right _ b.toNat_lt
      rw [read_cons, List.length_cons, Nat.pow_succ, Nat.mul_comm _ 256]
      rw [Nat.add_mul, Nat.one_mul] at hb
      omega

/-- A byte string is written from the number that it spells, whatever stands above that. -/
theorem write_add_read (bytes : Octets) (high : Nat) :
    write bytes.length (high * 256 ^ bytes.length + read bytes) [] = bytes := by
  induction bytes generalizing high with
  | nil => rfl
  | cons b bytes ih =>
      have hnumber : high * 256 ^ (b :: bytes).length + read (b :: bytes) =
          (high * 256 + b.toNat) * 256 ^ bytes.length + read bytes := by
        rw [read_cons, List.length_cons, Nat.pow_succ]
        ring
      have hbyte : ((high * 256 + b.toNat) * 256 ^ bytes.length + read bytes) /
          256 ^ bytes.length = high * 256 + b.toNat := by
        rw [Nat.add_comm, Nat.add_mul_div_right _ _ (Nat.pow_pos (by decide)),
          Nat.div_eq_of_lt (read_lt bytes), Nat.zero_add]
      have hlow : UInt8.ofNat (high * 256 + b.toNat) = b := by
        rw [← UInt8.toNat_inj, UInt8.toNat_ofNat']
        have hb := b.toNat_lt
        omega
      rw [hnumber, List.length_cons, write, ih]
      congr 1
      exact (congrArg UInt8.ofNat hbyte).trans hlow

theorem write_read (bytes : Octets) : write bytes.length (read bytes) [] = bytes := by
  have h := write_add_read bytes 0
  rwa [Nat.zero_mul, Nat.zero_add] at h

end BigEndian

namespace Hex

/-- The byte of a digit is read as the number of the digit. -/
theorem exists_byte_of_digit {n : Nat} (h : n < 16) :
    ∃ byte, String.utf8EncodeChar (digit n) = [byte] ∧ value? byte = some n := by
  have hall : ∀ n < 16, String.utf8EncodeChar (digit n) = [UInt8.ofNat (digit n).toNat] ∧
      value? (UInt8.ofNat (digit n).toNat) = some n := by decide +kernel
  exact ⟨_, hall n h⟩

theorem encode_digits_cons (b : UInt8) (bytes : Octets) :
    ∃ high low, Utf8.encode (digits (b :: bytes)) = high :: low :: Utf8.encode (digits bytes) ∧
      value? high = some (b.toNat / 16) ∧ value? low = some (b.toNat % 16) := by
  have hb : b.toNat < 256 := b.toNat_lt
  obtain ⟨high, hhigh, hvhigh⟩ := exists_byte_of_digit (show b.toNat / 16 < 16 by omega)
  obtain ⟨low, hlow, hvlow⟩ := exists_byte_of_digit (show b.toNat % 16 < 16 by omega)
  refine ⟨high, low, ?_, hvhigh, hvlow⟩
  rw [digits, List.flatMap_cons, List.cons_append, List.singleton_append, Utf8.encode_cons,
    Utf8.encode_cons, hhigh, hlow]
  rfl

theorem decodeFrom_digits (index : Nat) (bytes : Octets) :
    decodeFrom index (Utf8.encode (digits bytes)) = .ok bytes := by
  induction bytes generalizing index with
  | nil => rfl
  | cons b bytes ih =>
      obtain ⟨high, low, hcons, hhigh, hlow⟩ := encode_digits_cons b bytes
      have hbyte : UInt8.ofNat (16 * (b.toNat / 16) + b.toNat % 16) = b := by
        rw [Nat.div_add_mod, UInt8.ofNat_toNat]
      rw [hcons, decodeFrom, hhigh, hlow]
      simp only [ih, hbyte]

theorem length_encode_digits (bytes : Octets) :
    (Utf8.encode (digits bytes)).length = 2 * bytes.length := by
  induction bytes with
  | nil => rfl
  | cons b bytes ih =>
      obtain ⟨high, low, hcons, _⟩ := encode_digits_cons b bytes
      rw [hcons, List.length_cons, List.length_cons, ih, List.length_cons]
      omega

/-- A byte string is read back from its digits. -/
theorem decode_text (bytes : Octets) : decode (Utf8.bytes (text bytes)) = .ok bytes := by
  rw [decode, Utf8.bytes, text, String.toList_ofList, length_encode_digits,
    if_neg (by omega), decodeFrom_digits]

theorem text_injective : Function.Injective text := by
  intro bytes bytes' h
  have hread := decode_text bytes
  rw [h, decode_text] at hread
  exact (Except.ok.inj hread).symm

end Hex

/-- A hash is read back from its text. -/
theorem Hash.parse_text (hash : Hash) : parse hash.text = .ok hash := by
  rw [parse, text, Hex.decode_text]
  simp only [FixedBytes.ofList?_bytes]

end LedgerExport
