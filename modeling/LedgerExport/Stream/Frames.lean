import LedgerExport.Error

/-!
# Framed values

A stream of frames is a sequence of payloads, each behind its size in four
bytes; the highest bit of the size says nothing. The stream is cut into pieces
by the sizes alone, whatever the payloads hold, and reading takes one piece
after the other.

## Implementation notes

A size above the limit is a piece by itself, since nothing tells where its
payload would end.
-/

namespace LedgerExport.Frames

open Xdr

/-- The greatest size of a payload. -/
def maxSize : Nat := 268435456

/-- A piece of a stream. -/
inductive Piece
  | payload (header : FixedBytes 4) (bytes : Octets)
  | oversized (header : FixedBytes 4)
  | shortPayload (header : FixedBytes 4) (bytes : Octets)
  | shortHeader (bytes : Octets)

/-- The bytes of a piece. -/
def Piece.bytes : Piece → Octets
  | .payload header bytes => header.bytes ++ bytes
  | .oversized header => header.bytes
  | .shortPayload header bytes => header.bytes ++ bytes
  | .shortHeader bytes => bytes

/-- The size that a header announces. -/
def sizeOf (header : FixedBytes 4) : Nat :=
  BigEndian.read header.bytes % 0x80000000

/-- The first piece of a stream that has at least a header, and the rest. -/
def cut (header : FixedBytes 4) (bytes : Octets) : Piece × Octets :=
  if maxSize < sizeOf header then (.oversized header, bytes)
  else
    match split (sizeOf header) bytes with
    | some (payload, rest) => (.payload header payload.bytes, rest)
    | none => (.shortPayload header bytes, [])

theorem length_of_split {n : Nat} {bytes rest : Octets} {first : FixedBytes n}
    (h : split n bytes = some (first, rest)) : bytes.length = n + rest.length := by
  induction n generalizing bytes rest with
  | zero => simp only [split, Option.some.injEq, Prod.mk.injEq] at h; simp [h.2]
  | succ n ih =>
    cases bytes with
    | nil => simp [split] at h
    | cons b bytes =>
      cases hs : split n bytes with
      | none => simp [split, hs] at h
      | some found =>
        obtain ⟨v, r⟩ := found
        simp only [split, hs, Option.some.injEq, Prod.mk.injEq] at h
        have := ih hs
        simp only [List.length_cons, ← h.2]
        omega

theorem length_cut_le (header : FixedBytes 4) (bytes : Octets) :
    (cut header bytes).2.length ≤ bytes.length := by
  unfold cut
  split
  · exact Nat.le_refl _
  · split
    · next h => have := length_of_split h; simp only; omega
    · simp

/-- The pieces of a stream. -/
def pieces (bytes : Octets) : List Piece :=
  match _ : split 4 bytes with
  | none => if bytes.isEmpty then [] else [.shortHeader bytes]
  | some (header, rest) => (cut header rest).1 :: pieces (cut header rest).2
termination_by bytes.length
decreasing_by
  have := length_of_split ‹_›
  have := length_cut_le header rest
  omega

/-- A stream and the number of values that were read from it. -/
structure Reader where
  pieces : List Piece
  framesRead : Nat

namespace Reader

/-- A reader at the start of a stream. -/
def start (bytes : Octets) : Reader :=
  ⟨Frames.pieces bytes, 0⟩

/-- Reads one piece; `none` at the end of the stream. -/
def next {α : Type} (codec : Codec α) (reader : Reader) : Except Error (Option α) × Reader :=
  match reader.pieces with
  | [] => (.ok none, reader)
  | .shortHeader _ :: rest => (.error (.frameHeader reader.framesRead), ⟨rest, reader.framesRead⟩)
  | .oversized header :: rest => (.error (.frameSize (sizeOf header)), ⟨rest, reader.framesRead⟩)
  | .shortPayload _ _ :: rest => (.error .shortFrame, ⟨rest, reader.framesRead⟩)
  | .payload _ bytes :: rest =>
    match codec.decode bytes with
    | .ok value => (.ok (some value), ⟨rest, reader.framesRead + 1⟩)
    | .error fault => (.error (.xdr fault), ⟨rest, reader.framesRead⟩)

end Reader

end LedgerExport.Frames
