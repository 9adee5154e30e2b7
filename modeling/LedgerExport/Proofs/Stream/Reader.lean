import LedgerExport.Proofs.Xdr.Reading
import LedgerExport.Stream.Reader

/-!
# The values of a stream

Whatever the format and whatever the bytes, a value that comes out of a stream
was read by the layout of the stream, so it has what that layout promises.
-/

namespace LedgerExport

open Xdr

variable {α : Type} {P : α → Prop} {codec : Codec α}

theorem Frames.Reader.promised_of_next (h : codec.read.Promises P) {reader : Frames.Reader} {a : α}
    (hnext : (reader.next codec).1 = .ok (some a)) : P a := by
  obtain ⟨pieces, framesRead⟩ := reader
  cases pieces with
  | nil => cases hnext
  | cons piece pieces =>
      cases piece with
      | payload header bytes =>
          simp only [next] at hnext
          split at hnext
          · next value hdecode =>
              cases hnext
              exact Layout.decode_promised h hdecode
          · cases hnext
      | oversized header => cases hnext
      | shortPayload header bytes => cases hnext
      | shortHeader bytes => cases hnext

namespace Lines

theorem decode_promised (h : codec.read.Promises P) {digits : Octets} {a : α}
    (hdecode : decode codec digits = .ok a) : P a := by
  simp only [decode] at hdecode
  split at hdecode
  · next value hread =>
      split at hdecode
      · cases hdecode
        exact h _ _ _ hread
      · cases hdecode
  · cases hdecode
  · cases hdecode
  · cases hdecode

theorem Reader.promised_of_nextFrom (h : codec.read.Promises P) {counted : Nat}
    {lines : List Octets} {a : α} (hnext : (nextFrom codec counted lines).1 = .ok (some a)) :
    P a := by
  induction lines generalizing counted with
  | nil => cases hnext
  | cons line lines ih =>
      simp only [nextFrom] at hnext
      split at hnext
      · cases hnext
      · split at hnext
        · exact ih hnext
        · split at hnext
          · next value hdecode =>
              cases hnext
              exact decode_promised h hdecode
          · cases hnext

end Lines

namespace Stream.Reader

theorem promised_of_next (h : codec.read.Promises P) {reader : Reader} {a : α}
    (hnext : (reader.next codec).1 = .ok (some a)) : P a := by
  cases reader with
  | frames reader => exact reader.promised_of_next h hnext
  | lines reader => exact Lines.Reader.promised_of_nextFrom h hnext

theorem values_of_end {reader : Reader} (h : (reader.next codec).1 = .ok none) :
    reader.values codec = [] := by
  rw [values]
  split
  · rfl
  · next hnext => rw [h] at hnext; cases hnext
  · next hnext => rw [h] at hnext; cases hnext

theorem values_of_value {reader : Reader} {a : α} (h : (reader.next codec).1 = .ok (some a)) :
    reader.values codec = .ok a :: (reader.next codec).2.values codec := by
  rw [values]
  split
  · next hnext => rw [h] at hnext; cases hnext
  · next hnext => rw [h] at hnext; cases hnext; rfl
  · next hnext => rw [h] at hnext; cases hnext

theorem values_of_error {reader : Reader} {error : Error}
    (h : (reader.next codec).1 = .error error) : reader.values codec = [.error error] := by
  rw [values]
  split
  · next hnext => rw [h] at hnext; cases hnext
  · next hnext => rw [h] at hnext; cases hnext
  · next hnext => rw [h] at hnext; cases hnext; rfl

/-- The values of a stream depend on the next call alone. -/
theorem values_congr {reader reader' : Reader} (h : reader.next codec = reader'.next codec) :
    reader.values codec = reader'.values codec := by
  cases hnext : (reader.next codec).1 with
  | error error => rw [values_of_error hnext, values_of_error (h ▸ hnext)]
  | ok found =>
      cases found with
      | none => rw [values_of_end hnext, values_of_end (h ▸ hnext)]
      | some value =>
          have hnext' : (reader'.next codec).1 = .ok (some value) := h ▸ hnext
          rw [values_of_value hnext, values_of_value hnext', h]

/-- Every value of a stream has what its layout promises. -/
theorem promised_of_mem_values (h : codec.read.Promises P) {reader : Reader} {a : α}
    (ha : .ok a ∈ reader.values codec) : P a := by
  induction reader using values.induct codec with
  | case1 reader hnext =>
      rw [values_of_end hnext] at ha
      cases ha
  | case2 reader value hnext ih =>
      rw [values_of_value hnext] at ha
      rcases List.mem_cons.mp ha with heq | ha
      · cases heq
        exact promised_of_next h hnext
      · exact ih ha
  | case3 reader error hnext =>
      rw [values_of_error hnext] at ha
      cases List.mem_singleton.mp ha

end Stream.Reader

end LedgerExport
