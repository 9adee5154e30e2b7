import LedgerExport.Stream.Frames
import LedgerExport.Stream.Lines

/-!
# Streams of values

Values come in frames or in lines. A reader answers one value at a time and may
be asked again after an error; the values of a stream end with its first error.

## Implementation notes

What a reader has left shrinks with every value, so the values of a stream are
as many as its pieces at most.
-/

namespace LedgerExport.Stream

open Xdr

/-- How values stand in a stream. -/
inductive Format
  | frames
  | lines
deriving DecidableEq

/-- A stream of either format, partly read. -/
inductive Reader
  | frames (reader : Frames.Reader)
  | lines (reader : Lines.Reader)

namespace Reader

variable {α : Type}

/-- A reader at the start of a stream. -/
def start (bytes : Octets) : Format → Reader
  | .frames => .frames (.start bytes)
  | .lines => .lines (.start bytes)

/-- Reads one value; `none` at the end of the stream. -/
def next (codec : Codec α) : Reader → Except Error (Option α) × Reader
  | .frames reader => ((reader.next codec).1, .frames (reader.next codec).2)
  | .lines reader => ((reader.next codec).1, .lines (reader.next codec).2)

/-- The number of pieces or lines to come. -/
def remaining : Reader → Nat
  | .frames reader => reader.pieces.length
  | .lines reader => reader.lines.length

theorem remaining_frames_lt {codec : Codec α} {reader : Frames.Reader} {a : α}
    (h : (reader.next codec).1 = .ok (some a)) :
    (reader.next codec).2.pieces.length < reader.pieces.length := by
  obtain ⟨pieces, framesRead⟩ := reader
  cases pieces with
  | nil => simp [Frames.Reader.next] at h
  | cons piece pieces =>
    cases piece with
    | payload header bytes =>
      simp only [Frames.Reader.next]
      split <;> simp
    | _ => simp [Frames.Reader.next] at h

theorem lines_nextFrom_lt {codec : Codec α} {counted : Nat} {lines : List Octets} {a : α}
    (h : (Lines.Reader.nextFrom codec counted lines).1 = .ok (some a)) :
    (Lines.Reader.nextFrom codec counted lines).2.lines.length < lines.length := by
  induction lines generalizing counted with
  | nil => simp [Lines.Reader.nextFrom] at h
  | cons line lines ih =>
    cases ht : Utf8.decode? line with
    | none => simp [Lines.Reader.nextFrom, ht] at h
    | some text =>
      by_cases hb : (trim text).isEmpty
      · simp only [Lines.Reader.nextFrom, ht, hb, if_true] at h ⊢
        have := ih h
        simp only [List.length_cons]
        omega
      · cases hd : Lines.decode codec (Lines.digits text) with
        | error fault => simp [Lines.Reader.nextFrom, ht, hb, hd] at h
        | ok value => simp [Lines.Reader.nextFrom, ht, hb, hd]

/-- A value takes something from the stream. -/
theorem remaining_next_lt {codec : Codec α} {reader : Reader} {a : α}
    (h : (reader.next codec).1 = .ok (some a)) :
    (reader.next codec).2.remaining < reader.remaining := by
  cases reader with
  | frames reader => exact remaining_frames_lt h
  | lines reader => exact lines_nextFrom_lt h

/-- The values to come, up to the end of the stream or the first error. -/
def values (codec : Codec α) (reader : Reader) : List (Except Error α) :=
  match _ : (reader.next codec).1 with
  | .ok none => []
  | .ok (some a) => .ok a :: values codec (reader.next codec).2
  | .error error => [.error error]
termination_by reader.remaining
decreasing_by exact remaining_next_lt ‹_›

end Reader

end LedgerExport.Stream
