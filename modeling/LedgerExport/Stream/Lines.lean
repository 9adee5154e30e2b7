import LedgerExport.Error
import LedgerExport.Text.Base64
import LedgerExport.Text.Blank
import LedgerExport.Text.Utf8

/-!
# Values in lines of text

A stream of lines holds one value in each line that is not blank, in base64.
White space around a line means nothing, and nor does that of ASCII within it, as
long as there is not so much of it that it fills a window: a line is looked at in
windows, and ends with one that has no digit. Lines are counted from 1, but a line
that is not text is passed over uncounted.

## Implementation notes

The value is read while the line is decoded, so a value that ends before its
bytes do is reported ahead of a fault in the digits further on.
-/

namespace LedgerExport.Lines

open Xdr

/-- The byte that ends a line. -/
def lineFeed : UInt8 := 10

/-- The lines of a stream without their ends; what follows the last end is a line if not empty. -/
def ofBytes : Octets → List Octets
  | [] => []
  | byte :: rest =>
    if byte = lineFeed then [] :: ofBytes rest
    else
      match ofBytes rest with
      | [] => [[byte]]
      | line :: lines => (byte :: line) :: lines

/-- White space of ASCII. -/
def isGap (byte : UInt8) : Bool :=
  byte == 32 || byte == 9 || byte == 10 || byte == 12 || byte == 13

/-- The value that base64 digits spell. -/
def decode {α : Type} (codec : Codec α) (digits : Octets) : Except LineFault α :=
  let reading := Base64.decode digits
  match codec.read reading.bytes with
  | .ok (value, []) => if reading.clean then .ok value else .error .base64
  | .ok (_, _ :: _) => .error (.xdr .invalidValue)
  | .error .endOfInput => .error (if reading.clean then .xdr .endOfInput else .base64)
  | .error fault => .error (.xdr fault)

/-- The size of a window, which leaves room for the digits of a group that is not complete yet. -/
def windowSize (before : Nat) : Nat :=
  1024 - before % 4

/-- The digits in what is left of a line, of which some have been found before. -/
def digitsFrom (before : Nat) (bytes : Octets) : Octets :=
  match _ : (bytes.take (windowSize before)).filter (!isGap ·) with
  | [] => []
  | digit :: found =>
    digit :: found ++ digitsFrom (before + found.length + 1) (bytes.drop (windowSize before))
termination_by bytes.length
decreasing_by
  have nonempty : bytes ≠ [] := by rintro rfl; simp_all
  have := List.length_pos_iff.2 nonempty
  simp only [windowSize, List.length_drop]
  omega

/-- The digits of a line of text; a blank line has none. -/
def digits (text : List Char) : Octets :=
  digitsFrom 0 (Utf8.encode (trim text))

/-- The lines to come, and how many were counted. -/
structure Reader where
  lines : List Octets
  counted : Nat

namespace Reader

/-- A reader at the start of a stream. -/
def start (bytes : Octets) : Reader :=
  ⟨ofBytes bytes, 0⟩

/-- Reads up to the next line that is not blank. -/
def nextFrom {α : Type} (codec : Codec α) (counted : Nat) :
    List Octets → Except Error (Option α) × Reader
  | [] => (.ok none, ⟨[], counted⟩)
  | line :: lines =>
    match Utf8.decode? line with
    | none => (.error .lineNotUtf8, ⟨lines, counted⟩)
    | some text =>
      if (trim text).isEmpty then nextFrom codec (counted + 1) lines
      else
        match decode codec (digits text) with
        | .ok value => (.ok (some value), ⟨lines, counted + 1⟩)
        | .error fault => (.error (.line (counted + 1) fault), ⟨lines, counted + 1⟩)

/-- Reads one value; `none` at the end of the stream. -/
def next {α : Type} (codec : Codec α) (reader : Reader) : Except Error (Option α) × Reader :=
  nextFrom codec reader.counted reader.lines

end Reader

end LedgerExport.Lines
