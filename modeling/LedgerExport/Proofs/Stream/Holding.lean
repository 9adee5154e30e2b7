import LedgerExport.Proofs.Stream.Frames
import LedgerExport.Proofs.Stream.Lines

/-!
# Streams that hold values

A stream holds the encodings of some values, each in a frame or in a line, and
other bytes behind them. If the codec reads its own encodings, these values come
out first, and then what comes out of the other bytes by themselves.

## Implementation notes

Where other bytes are read from, the reader has counted the values in front of
them. This shows in errors that name a line or a number of frames.
-/

namespace LedgerExport.Stream

open Xdr

variable {α : Type} {codec : Codec α}

/-- A stream of a format holds some values and then a rest; the last line needs no end. -/
inductive Holds (codec : Codec α) : Format → List α → Octets → Octets → Prop
  | rest (format : Format) (bytes : Octets) : Holds codec format [] bytes bytes
  | frame {value : α} {values : List α} {bytes rest : Octets} (frame : Frames.Frame)
      (payload : frame.payload = codec.encode value) (more : Holds codec .frames values bytes rest) :
      Holds codec .frames (value :: values) (frame.bytes ++ bytes) rest
  | line {values : List α} {bytes rest : Octets} (value : α)
      (more : Holds codec .lines values bytes rest) :
      Holds codec .lines (value :: values)
        (Base64.encode (codec.encode value) ++ Lines.lineFeed :: bytes) rest
  | lastLine (value : α) : Holds codec .lines [value] (Base64.encode (codec.encode value)) []

/-- A value is read from its encoding, which is not empty. -/
structure ReadBack (codec : Codec α) (value : α) : Prop where
  decode : codec.decode (codec.encode value) = .ok value
  nonempty : codec.encode value ≠ []

namespace Reader

/-- A reader at the start of what is left of a stream, behind some number of values. -/
def resumed (bytes : Octets) (counted : Nat) : Format → Reader
  | .frames => .frames ⟨Frames.pieces bytes, counted⟩
  | .lines => .lines ⟨Lines.ofBytes bytes, counted⟩

theorem resumed_zero (bytes : Octets) (format : Format) :
    resumed bytes 0 format = start bytes format := by
  cases format with
  | frames => rfl
  | lines => rfl

/-! ## One value -/

theorem next_frame {frame : Frames.Frame} {value : α}
    (hpayload : frame.payload = codec.encode value)
    (hdecode : codec.decode (codec.encode value) = .ok value) (bytes : Octets) (counted : Nat) :
    (resumed (frame.bytes ++ bytes) counted .frames).next codec =
      (.ok (some value), resumed bytes (counted + 1) .frames) := by
  have hanswer : frame.answer codec = .ok value := by
    rw [Frames.Frame.answer, hpayload, hdecode]
    rfl
  have hcount : Frames.decodedCount codec [frame] = 1 := by
    simp [Frames.decodedCount, hanswer, Except.isOk, Except.toBool]
  rw [resumed, frame.pieces_bytes_append, next_piece, hanswer, hcount]
  rfl

theorem next_of_line {value : α} (hread : ReadBack codec value) {bytes : Octets} (rest : Octets)
    (hlines : Lines.ofBytes bytes =
      Base64.encode (codec.encode value) :: Lines.ofBytes rest) (counted : Nat) :
    (resumed bytes counted .lines).next codec =
      (.ok (some value), resumed rest (counted + 1) .lines) := by
  have hnext := Lines.Reader.nextFrom_encode codec hread.nonempty counted (Lines.ofBytes rest)
  rw [hread.decode] at hnext
  rw [resumed, hlines, next, Lines.Reader.next, hnext]
  rfl

/-! ## All values -/

/-- A value in front of those that come out of what is left behind it. -/
theorem values_of_next {format : Format} {value : α} {values : List α} {bytes more rest : Octets}
    {counted : Nat} (hnext : (resumed bytes counted format).next codec =
      (.ok (some value), resumed more (counted + 1) format))
    (hmore : (resumed more (counted + 1) format).values codec = values.map .ok ++
      (resumed rest (counted + 1 + values.length) format).values codec) :
    (resumed bytes counted format).values codec = (value :: values).map .ok ++
      (resumed rest (counted + (value :: values).length) format).values codec := by
  have hcounted : counted + 1 + values.length = counted + (value :: values).length := by
    rw [List.length_cons]
    omega
  rw [values_of_value (congrArg Prod.fst hnext), hnext, hmore, hcounted]
  rfl

/-- The values that a stream holds come out first, and the rest is read behind them. -/
theorem values_of_holds {format : Format} {values : List α} {bytes rest : Octets}
    (h : Holds codec format values bytes rest) (hread : ∀ value ∈ values, ReadBack codec value)
    (counted : Nat) :
    (resumed bytes counted format).values codec =
      values.map .ok ++ (resumed rest (counted + values.length) format).values codec := by
  induction h generalizing counted with
  | rest format bytes => rfl
  | frame frame hpayload more ih =>
      obtain ⟨hvalue, hvalues⟩ := List.forall_mem_cons.mp hread
      exact values_of_next (next_frame hpayload hvalue.decode _ counted) (ih hvalues (counted + 1))
  | line value more ih =>
      obtain ⟨hvalue, hvalues⟩ := List.forall_mem_cons.mp hread
      have hlines := Lines.ofBytes_append_cons (Lines.lineFeed_notMem_encode (codec.encode value))
      exact values_of_next (next_of_line hvalue _ (hlines _) counted) (ih hvalues (counted + 1))
  | lastLine value =>
      have hvalue := hread value (List.mem_singleton_self value)
      have hlines := Lines.ofBytes_of_not_mem (Lines.lineFeed_notMem_encode (codec.encode value))
        (Base64.encode_ne_nil hvalue.nonempty)
      exact values_of_next (next_of_line hvalue [] hlines counted) rfl

/-! ## The rest -/

/-- What is left of a stream, behind some number of values, is at its end or meets an error. -/
def Stops (codec : Codec α) (format : Format) (counted : Nat) (rest : Octets)
    (ending : Option Error) : Prop :=
  ((resumed rest counted format).next codec).1 =
    match ending with
    | none => .ok none
    | some error => .error error

theorem values_of_stops {format : Format} {counted : Nat} {rest : Octets} {ending : Option Error}
    (h : Stops codec format counted rest ending) :
    (resumed rest counted format).values codec = ending.toList.map .error := by
  cases ending with
  | none => exact values_of_end h
  | some error => exact values_of_error h

theorem stops_nil (codec : Codec α) (format : Format) (counted : Nat) :
    Stops codec format counted [] none := by
  cases format with
  | frames =>
      rw [Stops, resumed, Frames.pieces_nil]
      rfl
  | lines => rfl

/-- A payload whose size is above the limit is a rest that does not decode. -/
theorem stops_oversized (codec : Codec α) (counted : Nat) {header : FixedBytes 4}
    (h : Frames.maxSize < Frames.sizeOf header) (payload : Octets) :
    Stops codec .frames counted (header.bytes ++ payload)
      (some (.frameSize (Frames.sizeOf header))) := by
  rw [Stops, resumed, Frames.pieces_oversized h]
  rfl

end Reader

end LedgerExport.Stream
