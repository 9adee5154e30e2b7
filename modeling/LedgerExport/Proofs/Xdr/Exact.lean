import LedgerExport.Proofs.Bytes.RoundTrip
import LedgerExport.Proofs.Except
import LedgerExport.Xdr.Layout

/-!
# Exact codecs

A codec is exact if it reads the encodings of its values and nothing else, each
as its value. So a byte string decodes if and only if it is an encoding, whatever
way of reading it took. Words of full width and byte strings of a fixed length
are exact, and records and unions keep what their parts have.
-/

namespace LedgerExport.Xdr

variable {σ α β : Type}

/-! ## Decoders -/

namespace Decoder

variable {bytes rest : Octets}

theorem bind_read_iff {decoder : Decoder α} {next : α → Decoder β} {b : β} :
    (decoder >>= next) bytes = .ok (b, rest) ↔
      ∃ a middle, decoder bytes = .ok (a, middle) ∧ next a middle = .ok (b, rest) := by
  refine bind_eq_ok_iff.trans ⟨?_, ?_⟩
  · rintro ⟨⟨a, middle⟩, h, hnext⟩
    exact ⟨a, middle, h, hnext⟩
  · rintro ⟨a, middle, h, hnext⟩
    exact ⟨(a, middle), h, hnext⟩

theorem pure_read_iff {a b : α} :
    (pure a : Decoder α) bytes = .ok (b, rest) ↔ a = b ∧ bytes = rest :=
  pure_eq_ok_iff.trans Prod.mk_inj

theorem map_read_iff {decoder : Decoder α} {build : α → β} {b : β} :
    (build <$> decoder) bytes = .ok (b, rest) ↔
      ∃ a, decoder bytes = .ok (a, rest) ∧ build a = b := by
  rw [map_eq_pure_bind, bind_read_iff]
  constructor
  · rintro ⟨a, middle, h, hpure⟩
    obtain ⟨hbuild, rfl⟩ := pure_read_iff.mp hpure
    exact ⟨a, h, hbuild⟩
  · rintro ⟨a, h, hbuild⟩
    exact ⟨a, rest, h, pure_read_iff.mpr ⟨hbuild, rfl⟩⟩

end Decoder

open Decoder

/-! ## Exactness -/

/-- Reading undoes writing, and writing undoes reading. -/
structure Codec.Exact (codec : Codec α) : Prop where
  read_write (value : α) (rest : Octets) : codec.read (codec.write value rest) = .ok (value, rest)
  write_of_read {bytes : Octets} {value : α} {rest : Octets} :
    codec.read bytes = .ok (value, rest) → codec.write value rest = bytes

/-- A byte string decodes to a value if it is the encoding of that value. -/
theorem Codec.Exact.decode_eq_ok_iff {codec : Codec α} (h : codec.Exact) {bytes : Octets}
    {value : α} : codec.decode bytes = .ok value ↔ codec.encode value = bytes := by
  unfold Layout.decode Layout.encode
  constructor
  · intro hdecode
    split at hdecode
    · next hread =>
        cases hdecode
        exact h.write_of_read hread
    · cases hdecode
    · cases hdecode
  · rintro rfl
    rw [h.read_write]

/-! ## Bytes and words -/

theorem split_bytes_append {n : Nat} (first : FixedBytes n) (rest : Octets) :
    split n (first.bytes ++ rest) = some (first, rest) := by
  obtain ⟨bytes, rfl⟩ := first
  induction bytes with
  | nil => rfl
  | cons b bytes ih => simp only [List.length_cons, List.cons_append, split, ih]

theorem bytes_append_of_split {n : Nat} {bytes rest : Octets} {first : FixedBytes n}
    (h : split n bytes = some (first, rest)) : first.bytes ++ rest = bytes := by
  induction n generalizing bytes rest with
  | zero =>
      cases h
      rfl
  | succ n ih =>
      cases bytes with
      | nil => cases h
      | cons b bytes =>
          rw [split] at h
          split at h
          · next hmore =>
              cases h
              rw [List.cons_append, ih hmore]
          · cases h

theorem take_eq_ok_iff {n : Nat} {bytes rest : Octets} {first : FixedBytes n} :
    take n bytes = .ok (first, rest) ↔ first.bytes ++ rest = bytes := by
  unfold take
  constructor
  · intro h
    split at h
    · next hfound =>
        cases h
        exact bytes_append_of_split hfound
    · cases h
  · rintro rfl
    rw [split_bytes_append]

/-- A word is read where a number that fits in is written. -/
theorem word_eq_ok_iff {width n : Nat} {bytes rest : Octets} :
    word width bytes = .ok (n, rest) ↔
      n < 256 ^ width ∧ BigEndian.write width n rest = bytes := by
  unfold word
  rw [bind_read_iff]
  simp only [pure_read_iff, take_eq_ok_iff]
  constructor
  · rintro ⟨⟨first, rfl⟩, _, rfl, rfl, rfl⟩
    refine ⟨BigEndian.read_lt first, ?_⟩
    rw [BigEndian.write_eq_append, BigEndian.write_read]
  · rintro ⟨hlt, rfl⟩
    refine ⟨⟨BigEndian.write width n [], ?_⟩, rest, ?_, ?_, rfl⟩
    · rw [BigEndian.length_write, List.length_nil, Nat.add_zero]
    · exact (BigEndian.write_eq_append width n rest).symm
    · rw [BigEndian.read_write, Nat.mod_eq_of_lt hlt]

theorem exact_fixed (n : Nat) : (fixed n).Exact where
  read_write _ _ := take_eq_ok_iff.mpr rfl
  write_of_read h := take_eq_ok_iff.mp h

theorem exact_uint32 : uint32.Exact where
  read_write value rest := by
    have hword : word 4 (BigEndian.write 4 value.toNat rest) = .ok (value.toNat, rest) :=
      word_eq_ok_iff.mpr ⟨value.toNat_lt, rfl⟩
    exact bind_read_iff.mpr
      ⟨value.toNat, rest, hword, pure_read_iff.mpr ⟨UInt32.ofNat_toNat, rfl⟩⟩
  write_of_read h := by
    obtain ⟨n, middle, hword, h⟩ := bind_read_iff.mp h
    obtain ⟨rfl, rfl⟩ := pure_read_iff.mp h
    obtain ⟨hlt, rfl⟩ := word_eq_ok_iff.mp hword
    exact congrArg (BigEndian.write 4 · middle) (UInt32.toNat_ofNat_of_lt' hlt)

/-! ## Records and unions -/

section Records

variable {first : Codec α} {second : Codec β}

/-- A record of one field. -/
theorem exact_field {build : α → σ} {part : σ → α} (hfirst : first.Exact)
    (hbuild : ∀ value, build (part value) = value) (hpart : ∀ a, part (build a) = a) :
    Codec.Exact (Layout.make build |>.field first part) where
  read_write value rest := by
    have hread := hfirst.read_write (part value) rest
    exact bind_read_iff.mpr ⟨build, _, rfl, bind_read_iff.mpr
      ⟨part value, rest, hread, pure_read_iff.mpr ⟨hbuild value, rfl⟩⟩⟩
  write_of_read h := by
    obtain ⟨_, _, hmake, h⟩ := bind_read_iff.mp h
    obtain ⟨rfl, rfl⟩ := pure_read_iff.mp hmake
    obtain ⟨a, _, hread, h⟩ := bind_read_iff.mp h
    obtain ⟨rfl, rfl⟩ := pure_read_iff.mp h
    show first.write (part (build a)) _ = _
    rw [hpart, hfirst.write_of_read hread]

/-- A record of two fields. -/
theorem exact_fields {build : α → β → σ} {part : σ → α} {part' : σ → β}
    (hfirst : first.Exact) (hsecond : second.Exact)
    (hbuild : ∀ value, build (part value) (part' value) = value)
    (hpart : ∀ a b, part (build a b) = a) (hpart' : ∀ a b, part' (build a b) = b) :
    Codec.Exact (Layout.make build |>.field first part |>.field second part') where
  read_write value rest := by
    have hread := hfirst.read_write (part value) (second.write (part' value) rest)
    have hread' := hsecond.read_write (part' value) rest
    refine bind_read_iff.mpr ⟨build (part value), _, ?_, bind_read_iff.mpr
      ⟨part' value, rest, hread', pure_read_iff.mpr ⟨hbuild value, rfl⟩⟩⟩
    exact bind_read_iff.mpr ⟨build, _, rfl, bind_read_iff.mpr
      ⟨part value, _, hread, pure_read_iff.mpr ⟨rfl, rfl⟩⟩⟩
  write_of_read h := by
    obtain ⟨_, _, hbefore, h⟩ := bind_read_iff.mp h
    obtain ⟨_, _, hmake, hbefore⟩ := bind_read_iff.mp hbefore
    obtain ⟨rfl, rfl⟩ := pure_read_iff.mp hmake
    obtain ⟨a, _, hread, hbefore⟩ := bind_read_iff.mp hbefore
    obtain ⟨rfl, rfl⟩ := pure_read_iff.mp hbefore
    obtain ⟨b, _, hread', h⟩ := bind_read_iff.mp h
    obtain ⟨rfl, rfl⟩ := pure_read_iff.mp h
    show first.write (part (build a b)) (second.write (part' (build a b)) _) = _
    rw [hpart, hpart', hsecond.write_of_read hread', hfirst.write_of_read hread]

end Records

/-- A union reads what stands behind a tag as the arm of that tag is written. -/
theorem exact_union {view : α → Arm} {read : Nat → Decoder α}
    (htag : ∀ value, (view value).tag < 256 ^ 4)
    (hread : ∀ value rest,
      read (view value).tag ((view value).codec.write (view value).payload rest) =
        .ok (value, rest))
    (hwrite : ∀ tag bytes value rest, read tag bytes = .ok (value, rest) →
      (view value).tag = tag ∧ (view value).codec.write (view value).payload rest = bytes) :
    Codec.Exact (union view read) where
  read_write value rest :=
    bind_read_iff.mpr ⟨(view value).tag, _, word_eq_ok_iff.mpr ⟨htag value, rfl⟩,
      hread value rest⟩
  write_of_read {bytes value rest} h := by
    obtain ⟨tag, middle, hword, h⟩ := bind_read_iff.mp h
    obtain ⟨rfl, rfl⟩ := hwrite tag middle value rest h
    exact (word_eq_ok_iff.mp hword).2

end LedgerExport.Xdr
