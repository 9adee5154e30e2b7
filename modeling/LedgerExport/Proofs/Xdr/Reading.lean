import LedgerExport.Proofs.Except
import LedgerExport.Xdr.Layout

/-!
# What reading promises

A layout promises a property of the values that it reads, whatever the bytes
are. The promise of a structure follows from those of its fields, and a list
promises that it keeps to its limit.
-/

namespace LedgerExport.Xdr

variable {σ α β : Type} {P : α → Prop} {Q : β → Prop}

/-- Every value that a decoder reads has the property. -/
def Decoder.Promises (decoder : Decoder α) (P : α → Prop) : Prop :=
  ∀ bytes value rest, decoder bytes = .ok (value, rest) → P value

namespace Decoder

theorem promises_true (decoder : Decoder α) : decoder.Promises fun _ => True :=
  fun _ _ _ _ => trivial

theorem Promises.imp {decoder : Decoder α} {P' : α → Prop} (h : decoder.Promises P)
    (himp : ∀ value, P value → P' value) : decoder.Promises P' :=
  fun bytes value rest hread => himp value (h bytes value rest hread)

theorem promises_pure {value : α} (h : P value) : Promises (pure value) P := by
  intro bytes found rest hread
  cases hread
  exact h

theorem promises_throw (fault : Fault) : Promises (throw fault) P := by
  intro bytes value rest hread
  cases hread

theorem Promises.bind {decoder : Decoder α} {next : α → Decoder β} (h : decoder.Promises P)
    (hnext : ∀ value, P value → (next value).Promises Q) : Promises (decoder >>= next) Q := by
  intro bytes value rest hread
  obtain ⟨⟨first, middle⟩, hfirst, hread⟩ := bind_eq_ok_iff.mp hread
  exact hnext first (h bytes first middle hfirst) middle value rest hread

theorem Promises.map {decoder : Decoder α} {build : α → β} (h : decoder.Promises P)
    (hbuild : ∀ value, P value → Q (build value)) : Promises (build <$> decoder) Q := by
  rw [map_eq_pure_bind]
  exact h.bind fun value hvalue => promises_pure (hbuild value hvalue)

end Decoder

open Decoder

theorem promises_readMany {decoder : Decoder α} (h : decoder.Promises P) (n : Nat) :
    (readMany decoder n).Promises fun values => values.length = n ∧ ∀ value ∈ values, P value := by
  induction n with
  | zero => exact promises_pure ⟨rfl, by simp⟩
  | succ n ih =>
      refine h.bind fun first hfirst => ih.bind ?_
      rintro more ⟨hlength, hmore⟩
      refine promises_pure ⟨by rw [List.length_cons, hlength], ?_⟩
      rintro value (_ | ⟨_, hvalue⟩)
      · exact hfirst
      · exact hmore value hvalue

/-- A list keeps to its limit. -/
theorem promises_list {codec : Codec α} (h : codec.read.Promises P) (limit : Nat) :
    (list limit codec).read.Promises fun values =>
      values.length ≤ limit ∧ ∀ value ∈ values, P value := by
  refine (promises_true (word 4)).bind fun n _ => ?_
  split
  · exact (promises_throw (P := fun _ => False) .tooLong).bind fun _ hfalse => hfalse.elim
  · next hn =>
      refine (promises_readMany h n).imp ?_
      rintro values ⟨hlength, hvalues⟩
      exact ⟨hlength ▸ Nat.le_of_not_lt hn, hvalues⟩

theorem promises_extension {codec : Codec α} (h : codec.read.Promises P) (tag : Nat) :
    (extension tag codec).read.Promises fun found => ∀ value ∈ found, P value := by
  refine (promises_true (word 4)).bind fun n _ => ?_
  split
  · exact promises_pure (by simp)
  · split
    · refine h.bind fun value hvalue => promises_pure ?_
      rintro _ ⟨⟩
      exact hvalue
    · exact promises_throw .invalidValue

/-- A union promises what each of its arms does. -/
theorem promises_union {view : α → Arm} {read : Nat → Decoder α}
    (h : ∀ tag, (read tag).Promises P) : (union view read).read.Promises P :=
  (promises_true (word 4)).bind fun tag _ => h tag

namespace Layout

theorem promises_make {value : α} (h : P value) : (make value : Layout σ α).read.Promises P :=
  promises_pure h

theorem promises_mark {before : Layout σ α} (h : before.read.Promises P) (tag : Nat) :
    (before.mark tag).read.Promises P := by
  refine h.bind fun value hvalue => (promises_true (word 4)).bind fun n _ => ?_
  split
  · exact promises_pure hvalue
  · exact promises_throw .invalidValue

/-- A field passes its promise on to what is built of it. -/
theorem promises_field {before : Layout σ (α → β)} {codec : Codec α} {part : σ → α}
    (hcodec : codec.read.Promises P)
    (h : before.read.Promises fun build => ∀ value, P value → Q (build value)) :
    (before.field codec part).read.Promises Q :=
  h.bind fun _ hbuild => hcodec.bind fun value hvalue => promises_pure (hbuild value hvalue)

theorem promises_other_field {before : Layout σ (α → β)} {codec : Codec α} {part : σ → α}
    (h : before.read.Promises fun build => ∀ value, Q (build value)) :
    (before.field codec part).read.Promises Q :=
  promises_field (promises_true codec.read) (h.imp fun _ hbuild value _ => hbuild value)

/-- What a layout decodes from whole bytes is what it reads. -/
theorem decode_promised {codec : Codec α} (h : codec.read.Promises P) {bytes : Octets} {value : α}
    (hdecode : codec.decode bytes = .ok value) : P value := by
  unfold decode at hdecode
  split at hdecode
  · next found hread =>
      cases hdecode
      exact h bytes _ _ hread
  · cases hdecode
  · cases hdecode

end Layout

end LedgerExport.Xdr
