import LedgerExport.Proofs.Text.Decimal
import LedgerExport.Wide
import Mathlib.Data.BitVec

/-!
# Words hold wide integers exactly

An integer of 128 bits is cut into two words and put together again: the upper word
keeps the sign, and the lower one has none. Nothing is lost in either direction, and
the integer is the upper word times `2 ^ 64` plus the lower one. Its text is the
ordinary decimal, from which the words come back.

## Implementation notes

A `Packing` has both ways to come by words, by cutting bits and by dividing integers,
and it is exact if they agree.
-/

namespace LedgerExport

/-! ## Two words of one width -/

section Words

variable {n : Nat} (hi lo : BitVec n) (v : BitVec (n + n))

theorem setWidth_shiftLeft_or_setWidth :
    hi.setWidth (n + n) <<< n ||| lo.setWidth (n + n) = hi ++ lo :=
  BitVec.setWidth_append_eq_shiftLeft_setWidth_or.symm.trans (BitVec.setWidth_eq _)

/-- The sign in front of the upper word is shifted out. -/
theorem signExtend_shiftLeft : hi.signExtend (n + n) <<< n = hi.setWidth (n + n) <<< n := by
  apply BitVec.eq_of_getLsbD_eq
  intro i hlt
  rw [BitVec.getLsbD_shiftLeft, BitVec.getLsbD_shiftLeft, BitVec.getLsbD_signExtend,
    BitVec.getLsbD_setWidth, if_pos (by omega : i - n < n)]

/-- The sign that is shifted in stands above the upper word. -/
theorem setWidth_sshiftRight : (v.sshiftRight n).setWidth n = (v >>> n).setWidth n := by
  apply BitVec.eq_of_getLsbD_eq
  intro i hlt
  have hbound : ¬ n + n ≤ i := by omega
  rw [BitVec.getLsbD_setWidth, BitVec.getLsbD_setWidth, BitVec.getLsbD_sshiftRight,
    BitVec.getLsbD_ushiftRight, if_pos (by omega : n + i < n + n), decide_eq_false hbound,
    Bool.not_false, Bool.true_and]

theorem setWidth_ushiftRight_append : ((hi ++ lo) >>> n).setWidth n = hi := by
  apply BitVec.eq_of_getLsbD_eq
  intro i hlt
  rw [BitVec.getLsbD_setWidth, BitVec.getLsbD_ushiftRight, BitVec.getLsbD_append,
    if_neg (by omega), Nat.add_sub_cancel_left, decide_eq_true hlt, Bool.true_and]

theorem ushiftRight_append_setWidth : (v >>> n).setWidth n ++ v.setWidth n = v := by
  apply BitVec.eq_of_getLsbD_eq
  intro i hlt
  rw [BitVec.getLsbD_append]
  split
  · next h => rw [BitVec.getLsbD_setWidth, decide_eq_true h, Bool.true_and]
  · next h =>
      have hupper : i - n < n := by omega
      rw [BitVec.getLsbD_setWidth, decide_eq_true hupper, Bool.true_and,
        BitVec.getLsbD_ushiftRight, Nat.add_sub_of_le (by omega)]

end Words

/-! ## Exact packings -/

/-- A way to hold integers of 128 bits in words: the bits cut into words and put together again, the
integer that bits and words stand for, the words of an integer, and the text of words. -/
structure Packing (W : Type) where
  ofBits : BitVec 128 → W
  bits : W → BitVec 128
  bitsValue : BitVec 128 → Int
  value : W → Int
  ofInt? : Int → Option W
  text : W → String

namespace Packing

variable {W : Type} {p : Packing W}

/-- Nothing is lost between bits and words, between integers and words, and between words and their
texts, which are the decimals of the integers. -/
structure Exact (p : Packing W) : Prop where
  bits_ofBits (v : BitVec 128) : p.bits (p.ofBits v) = v
  ofBits_bits (w : W) : p.ofBits (p.bits w) = w
  bitsValue_bits (w : W) : p.bitsValue (p.bits w) = p.value w
  ofInt?_eq_some_iff (n : Int) (w : W) : p.ofInt? n = some w ↔ p.value w = n
  text_eq_toString (w : W) : p.text w = toString (p.value w)
  read_text (w : W) : (Decimal.signed? (p.text w).toList).bind p.ofInt? = some w
  text_injective : Function.Injective p.text

/-- Texts that are decimals are read back, and so tell words apart. -/
theorem exact_of_decimal (bits_ofBits : ∀ v, p.bits (p.ofBits v) = v)
    (ofBits_bits : ∀ w, p.ofBits (p.bits w) = w)
    (bitsValue_bits : ∀ w, p.bitsValue (p.bits w) = p.value w)
    (ofInt?_eq_some_iff : ∀ n w, p.ofInt? n = some w ↔ p.value w = n)
    (text_eq : ∀ w, p.text w = Decimal.int (p.value w)) : p.Exact := by
  have hread (w : W) : (Decimal.signed? (p.text w).toList).bind p.ofInt? = some w := by
    rw [text_eq, Decimal.signed?_int, Option.bind_some, ofInt?_eq_some_iff]
  refine ⟨bits_ofBits, ofBits_bits, bitsValue_bits, ofInt?_eq_some_iff, fun w => ?_, hread, ?_⟩
  · rw [text_eq, Decimal.int_eq_toString]
  · intro w w' h
    have hsame := hread w
    rw [h, hread] at hsame
    exact (Option.some.inj hsame).symm

end Packing

/-! ## Signed integers -/

namespace Int128

/-- Signed integers of 128 bits in words. -/
def packing : Packing Int128 where
  ofBits := ofBits
  bits := bits
  bitsValue := BitVec.toInt
  value w := w.hi.toInt * 2 ^ 64 + w.lo.toNat
  ofInt? := ofInt?
  text := text

theorem bits_eq_append (w : Int128) : w.bits = w.hi.toBitVec ++ w.lo.toBitVec := by
  rw [bits, signExtend_shiftLeft (n := 64), setWidth_shiftLeft_or_setWidth (n := 64)]

theorem ofBits_bits (w : Int128) : ofBits w.bits = w := by
  rw [bits_eq_append, ofBits, setWidth_sshiftRight, setWidth_ushiftRight_append,
    BitVec.setWidth_append_eq_right]
  rfl

theorem bits_ofBits (v : BitVec 128) : (ofBits v).bits = v := by
  rw [bits_eq_append, ofBits]
  show (v.sshiftRight 64).setWidth 64 ++ v.setWidth 64 = v
  rw [setWidth_sshiftRight (n := 64), ushiftRight_append_setWidth (n := 64)]

theorem toInt_bits (w : Int128) : w.bits.toInt = w.hi.toInt * 2 ^ 64 + w.lo.toNat := by
  rw [bits_eq_append, BitVec.toInt_append, if_neg (by decide), Int.mul_comm]
  rfl

theorem ofInt?_eq_some_iff (n : Int) (w : Int128) :
    ofInt? n = some w ↔ w.hi.toInt * 2 ^ 64 + w.lo.toNat = n := by
  -- Quotient and remainder by `2 ^ 64` are unique, once both words are seen as bounded numbers.
  have hmin := w.hi.le_toInt
  have hmax := w.hi.toInt_lt
  have hlow := w.lo.toNat_lt
  rw [ofInt?]
  split
  · next hrange =>
      rw [Option.some.injEq]
      constructor
      · rintro rfl
        have hhi : (ofInt n).hi.toInt = n / 0x10000000000000000 :=
          Int64.toInt_ofInt_of_le (by omega) (by omega)
        have hlo : (ofInt n).lo.toNat = (n % 0x10000000000000000).toNat :=
          UInt64.toNat_ofNat_of_lt' (by simp only [UInt64.size]; omega)
        omega
      · intro h
        have hhi : n / 0x10000000000000000 = w.hi.toInt := by omega
        have hlo : (n % 0x10000000000000000).toNat = w.lo.toNat := by omega
        rw [ofInt, hhi, hlo, Int64.ofInt_toInt, UInt64.ofNat_toNat]
  · next hrange => exact iff_of_false nofun fun h => by omega

theorem packing_exact : packing.Exact :=
  Packing.exact_of_decimal bits_ofBits ofBits_bits toInt_bits ofInt?_eq_some_iff fun _ => rfl

end Int128

/-! ## Unsigned integers -/

namespace UInt128

/-- Unsigned integers of 128 bits in words. -/
def packing : Packing UInt128 where
  ofBits := ofBits
  bits := bits
  bitsValue v := v.toNat
  value w := w.hi.toNat * 2 ^ 64 + w.lo.toNat
  ofInt? := ofInt?
  text := text

theorem bits_eq_append (w : UInt128) : w.bits = w.hi.toBitVec ++ w.lo.toBitVec := by
  rw [bits, setWidth_shiftLeft_or_setWidth (n := 64)]

theorem ofBits_bits (w : UInt128) : ofBits w.bits = w := by
  rw [bits_eq_append, ofBits, setWidth_ushiftRight_append, BitVec.setWidth_append_eq_right]

theorem bits_ofBits (v : BitVec 128) : (ofBits v).bits = v := by
  rw [bits_eq_append, ofBits]
  exact ushiftRight_append_setWidth (n := 64) v

theorem toNat_bits (w : UInt128) : (w.bits.toNat : Int) = w.hi.toNat * 2 ^ 64 + w.lo.toNat := by
  rw [bits_eq_append, BitVec.toNat_append, ← Nat.shiftLeft_add_eq_or_of_lt w.lo.toBitVec.isLt,
    Nat.shiftLeft_eq]
  rfl

theorem ofInt?_eq_some_iff (n : Int) (w : UInt128) :
    ofInt? n = some w ↔ (w.hi.toNat : Int) * 2 ^ 64 + w.lo.toNat = n := by
  have hmax := w.hi.toNat_lt
  have hlow := w.lo.toNat_lt
  rw [ofInt?]
  split
  · next hrange =>
      rw [Option.some.injEq]
      constructor
      · rintro rfl
        have hhi : (ofNat n.toNat).hi.toNat = n.toNat / 0x10000000000000000 :=
          UInt64.toNat_ofNat_of_lt' (by simp only [UInt64.size]; omega)
        have hlo : (ofNat n.toNat).lo.toNat = n.toNat % 0x10000000000000000 :=
          UInt64.toNat_ofNat'
        omega
      · intro h
        have hhi : n.toNat / 0x10000000000000000 = w.hi.toNat := by omega
        have hlo : UInt64.ofNat n.toNat = w.lo := by
          rw [← UInt64.toNat_inj, UInt64.toNat_ofNat']
          omega
        rw [ofNat, hhi, hlo, UInt64.ofNat_toNat]
  · next hrange => exact iff_of_false nofun fun h => by omega

theorem packing_exact : packing.Exact :=
  Packing.exact_of_decimal bits_ofBits ofBits_bits toNat_bits ofInt?_eq_some_iff fun _ => rfl

end UInt128

/-- Signed and unsigned integers of 128 bits are kept in words exactly: nothing is lost between bits
and words, the integer is the upper word times `2 ^ 64` plus the lower one, its words are these words
alone, and its text is the decimal, from which the words come back. -/
theorem wide_packings_exact : Int128.packing.Exact ∧ UInt128.packing.Exact :=
  ⟨Int128.packing_exact, UInt128.packing_exact⟩

end LedgerExport
