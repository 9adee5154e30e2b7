import LedgerExport.Proofs.Bytes.RoundTrip
import LedgerExport.Proofs.Stream.Reader
import LedgerExport.Proofs.Xdr.Exact

/-!
# Streams of whole frames

A stream that was made of frames is cut into these frames again, whatever their
payloads hold. So the calls of a reader answer for the payloads one by one, and
a payload that is no value does not bear on those behind it.

## Implementation notes

A frame carries the bound on its payload. The highest bit of its header is free,
and is lost when the size is read.
-/

namespace LedgerExport

open Xdr

variable {α ε : Type}

/-! ## Pieces -/

namespace Frames

/-- A stream is cut behind its first header, and the rest is cut by itself. -/
theorem pieces_of_cut {header : FixedBytes 4} {bytes rest : Octets} {piece : Piece}
    (h : cut header bytes = (piece, rest)) :
    pieces (header.bytes ++ bytes) = piece :: pieces rest := by
  have hsplit : split 4 (header.bytes ++ bytes) = some (header, bytes) :=
    split_bytes_append header bytes
  rw [pieces]
  split
  · next hnone =>
      rw [hsplit] at hnone
      cases hnone
  · next hfound =>
      rw [hsplit] at hfound
      cases hfound
      rw [h]

/-- A payload within the limit, and whether the highest bit of its header is set. -/
structure Frame where
  marked : Bool
  payload : Octets
  length_payload_le : payload.length ≤ maxSize

namespace Frame

/-- The size of the payload in four bytes, together with the highest bit. -/
def header (frame : Frame) : FixedBytes 4 where
  bytes := BigEndian.write 4 (frame.payload.length + if frame.marked then 0x80000000 else 0) []
  length_bytes := BigEndian.length_write 4 _ []

/-- A payload behind its header. -/
def bytes (frame : Frame) : Octets :=
  frame.header.bytes ++ frame.payload

/-- The piece that a frame is in a stream. -/
def piece (frame : Frame) : Piece :=
  .payload frame.header frame.payload

/-- What decoding the payload by itself gives. -/
def answer (codec : Codec α) (frame : Frame) : Except Error α :=
  (codec.decode frame.payload).mapError .xdr

/-- The highest bit does not bear on the size. -/
theorem sizeOf_header (frame : Frame) : sizeOf frame.header = frame.payload.length := by
  have hle := frame.length_payload_le
  simp only [maxSize] at hle
  rw [sizeOf, header, BigEndian.read_write]
  split <;> omega

theorem pieces_bytes_append (frame : Frame) (rest : Octets) :
    pieces (frame.bytes ++ rest) = frame.piece :: pieces rest := by
  have hle : ¬maxSize < sizeOf frame.header := by
    rw [sizeOf_header]
    exact Nat.not_lt.mpr frame.length_payload_le
  have hpayload := split_bytes_append ⟨frame.payload, frame.sizeOf_header.symm⟩ rest
  rw [bytes, List.append_assoc]
  apply pieces_of_cut
  simp only [cut, if_neg hle, hpayload, piece]

end Frame

/-- The stream of some frames. -/
def stream (frames : List Frame) : Octets :=
  frames.flatMap (·.bytes)

theorem pieces_stream_append (frames : List Frame) (rest : Octets) :
    pieces (stream frames ++ rest) = frames.map (·.piece) ++ pieces rest := by
  induction frames with
  | nil => rfl
  | cons frame frames ih =>
      rw [stream, List.flatMap_cons, List.append_assoc, frame.pieces_bytes_append]
      exact congrArg (frame.piece :: ·) ih

/-- A header above the limit is a piece by itself. -/
theorem pieces_oversized {header : FixedBytes 4} (h : maxSize < sizeOf header) (rest : Octets) :
    pieces (header.bytes ++ rest) = .oversized header :: pieces rest :=
  pieces_of_cut (by rw [cut, if_pos h])

theorem pieces_nil : pieces [] = [] := by
  rw [pieces]
  rfl

theorem pieces_stream (frames : List Frame) : pieces (stream frames) = frames.map (·.piece) := by
  have h := pieces_stream_append frames []
  rwa [List.append_nil, pieces_nil, List.append_nil] at h

/-! ## Calls -/

/-- A reader after some number of calls. -/
def Reader.after (codec : Codec α) : Nat → Reader → Reader
  | 0, reader => reader
  | calls + 1, reader => (reader.next codec).2.after codec calls

/-- The number of frames whose payload is a value. -/
def decodedCount (codec : Codec α) (frames : List Frame) : Nat :=
  frames.countP fun frame => (frame.answer codec).isOk

namespace Reader

/-- One call takes one frame, and counts it if it is a value. -/
theorem next_piece (codec : Codec α) (frame : Frame) (more : List Piece) (framesRead : Nat) :
    (Reader.mk (frame.piece :: more) framesRead).next codec =
      ((frame.answer codec).map some, ⟨more, framesRead + decodedCount codec [frame]⟩) := by
  cases h : codec.decode frame.payload with
  | ok value => simp [next, Frame.piece, Frame.answer, decodedCount, h, Except.mapError,
      Except.map, Except.isOk, Except.toBool]
  | error fault => simp [next, Frame.piece, Frame.answer, decodedCount, h, Except.mapError,
      Except.map, Except.isOk, Except.toBool]

/-- After some calls the reader stands behind as many frames. -/
theorem after_frames (codec : Codec α) (calls framesRead : Nat) (frames : List Frame) :
    (Reader.mk (frames.map (·.piece)) framesRead).after codec calls =
      ⟨(frames.drop calls).map (·.piece),
        framesRead + decodedCount codec (frames.take calls)⟩ := by
  induction calls generalizing frames framesRead with
  | zero => rfl
  | succ calls ih =>
      cases frames with
      | nil =>
          have h := ih framesRead []
          simpa [after, next] using h
      | cons frame frames =>
          rw [after, List.map_cons, next_piece, ih, List.drop_succ_cons, List.take_succ_cons]
          congr 1
          simp only [decodedCount, List.countP_cons, List.countP_nil]
          omega

end Reader

end Frames

/-! ## Values -/

theorem Stream.Reader.next_piece (codec : Codec α) (frame : Frames.Frame)
    (more : List Frames.Piece) (framesRead : Nat) :
    (Stream.Reader.frames ⟨frame.piece :: more, framesRead⟩).next codec =
      ((frame.answer codec).map some,
        .frames ⟨more, framesRead + Frames.decodedCount codec [frame]⟩) := by
  rw [next, Frames.Reader.next_piece]

/-- Results up to the first error, and that error. -/
def upToError : List (Except ε α) → List (Except ε α)
  | [] => []
  | .ok value :: more => .ok value :: upToError more
  | .error error :: _ => [.error error]

theorem upToError_map_ok (values : List α) :
    upToError (values.map (Except.ok (ε := ε))) = values.map .ok := by
  induction values with
  | nil => rfl
  | cons value values ih => rw [List.map_cons, upToError, ih]

namespace Frames

open Stream.Reader (values_of_end values_of_value values_of_error)

/-- The values of a stream are what its payloads decode to, up to the first that is none. -/
theorem values_frames (codec : Codec α) (framesRead : Nat) (frames : List Frame) :
    (Stream.Reader.frames ⟨frames.map (·.piece), framesRead⟩).values codec =
      upToError (frames.map (·.answer codec)) := by
  induction frames generalizing framesRead with
  | nil => exact values_of_end rfl
  | cons frame frames ih =>
      rw [List.map_cons, List.map_cons]
      have hnext := Stream.Reader.next_piece codec frame (frames.map (·.piece)) framesRead
      cases hanswer : frame.answer codec with
      | ok value =>
          rw [values_of_value (by rw [hnext, hanswer]; rfl), hnext, ih, upToError]
      | error error =>
          rw [values_of_error (by rw [hnext, hanswer]; rfl), upToError]

theorem map_answer_of_encoded {codec : Codec α} {frames : List Frame} {values : List α}
    (hpayloads : frames.map (·.payload) = values.map codec.encode)
    (hdecode : ∀ value ∈ values, codec.decode (codec.encode value) = .ok value) :
    frames.map (·.answer codec) = values.map .ok := by
  calc
    frames.map (·.answer codec)
      = (frames.map (·.payload)).map fun payload => (codec.decode payload).mapError .xdr := by
        rw [List.map_map]
        rfl
    _ = values.map .ok := by
        rw [hpayloads, List.map_map]
        apply List.map_congr_left
        intro value hvalue
        rw [Function.comp_apply, hdecode value hvalue]
        rfl

/-- Each call of a reader answers for one payload, as if that stood alone, and behind the last
one every call answers the end; the reader counts the values among them. The values of the
stream end with the first payload that is none, and encoded values are all read back. -/
theorem frames_read_one_by_one (codec : Codec α) (frames : List Frame) :
    let reader (calls : Nat) := (Reader.start (stream frames)).after codec calls
    let values := (Stream.Reader.start (stream frames) .frames).values codec
    (∀ (k : Nat) (frame : Frame), frames[k]? = some frame →
      ((reader k).next codec).1 = (frame.answer codec).map some) ∧
    (∀ k, frames.length ≤ k → ((reader k).next codec).1 = .ok none) ∧
    (∀ k, (reader k).framesRead = decodedCount codec (frames.take k)) ∧
    values = upToError (frames.map (·.answer codec)) ∧
    (∀ encoded : List α, frames.map (·.payload) = encoded.map codec.encode →
      (∀ value ∈ encoded, codec.decode (codec.encode value) = .ok value) →
        values = encoded.map .ok) := by
  intro reader values
  have hreader : ∀ calls, reader calls =
      ⟨(frames.drop calls).map (·.piece), decodedCount codec (frames.take calls)⟩ := by
    intro calls
    have h := Reader.after_frames codec calls 0 frames
    rw [Nat.zero_add] at h
    rw [← h, ← pieces_stream]
    rfl
  have hvalues : values = upToError (frames.map (·.answer codec)) := by
    rw [← values_frames codec 0, ← pieces_stream]
    rfl
  refine ⟨?_, ?_, ?_, hvalues, ?_⟩
  · intro k frame hframe
    obtain ⟨hk, rfl⟩ := List.getElem?_eq_some_iff.mp hframe
    rw [hreader, List.drop_eq_getElem_cons hk, List.map_cons, Reader.next_piece]
  · intro k hk
    rw [hreader, List.drop_eq_nil_of_le hk]
    rfl
  · intro k
    rw [hreader]
  · intro encoded hpayloads hdecode
    rw [hvalues, map_answer_of_encoded hpayloads hdecode, upToError_map_ok]

/-- Two numbers in frames, and the same stream with an empty payload and a payload that is too
long between them. -/
theorem numbers_read_around_bad_payloads :
    let seven : Frame := ⟨true, [0, 0, 0, 7], by decide⟩
    let empty : Frame := ⟨false, [], by decide⟩
    let long : Frame := ⟨true, [0, 0, 0, 8, 0], by decide⟩
    let nine : Frame := ⟨false, [0, 0, 0, 9], by decide⟩
    let reader (calls : Nat) :=
      (Reader.start (stream [seven, empty, long, nine])).after uint32 calls
    ((reader 3).next uint32).1 = .ok (some 9) ∧ ((reader 5).next uint32).1 = .ok none ∧
      (reader 3).framesRead = 1 ∧
      (Stream.Reader.start (stream [seven, empty, long, nine]) .frames).values uint32 =
        [.ok 7, .error (.xdr .endOfInput)] ∧
      (Stream.Reader.start (stream [seven, nine]) .frames).values uint32 = [.ok 7, .ok 9] := by
  intro seven empty long nine reader
  obtain ⟨hcalls, hend, hcount, hvalues, -⟩ :=
    frames_read_one_by_one uint32 [seven, empty, long, nine]
  obtain ⟨-, -, -, -, hencoded⟩ := frames_read_one_by_one uint32 [seven, nine]
  have hdecode : ∀ value ∈ [7, 9], uint32.decode (uint32.encode value) = .ok value :=
    List.forall_mem_cons.mpr ⟨rfl, List.forall_mem_singleton.mpr rfl⟩
  exact ⟨hcalls 3 nine rfl, hend 5 (by decide), hcount 3, hvalues, hencoded [7, 9] rfl hdecode⟩

end Frames

end LedgerExport
