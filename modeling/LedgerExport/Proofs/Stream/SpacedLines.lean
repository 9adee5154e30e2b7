import LedgerExport.Proofs.Stream.Holding

/-!
# Lines with white space in them

A stream may spread the digits of a value over its line, with gaps between them and
white space around them, and hold blank lines among the lines with values. Each
call of a reader passes over the blank lines and answers for the digits that it
finds in the next line; these are all its digits, and so its value is read, just if
they are within reach.

## Implementation notes

The gaps at the ends of a line are part of the white space around the digits, so
the digits with their gaps begin and end with a digit.
-/

namespace LedgerExport.Lines

open Xdr

variable {α : Type} {codec : Codec α}

/-! ## Rows -/

/-- White space that stands in one line. -/
structure Padding where
  text : List Char
  blank : ∀ c ∈ text, isBlank c = true
  lineFeed_notMem : '\n' ∉ text

/-- The bytes of white space. -/
def Padding.bytes (padding : Padding) : Octets :=
  Utf8.encode padding.text

/-- Some digits in one line, with gaps between them. -/
structure Spaced (digits : Octets) where
  bytes : Octets
  filter_bytes : bytes.filter (!isGap ·) = digits
  lineFeed_notMem : lineFeed ∉ bytes
  first : ∀ b ∈ bytes.head?, isGap b = false
  last : ∀ b ∈ bytes.getLast?, isGap b = false

/-- A value in a line: its digits, gaps between them, and white space around them. -/
structure ValueRow (codec : Codec α) where
  value : α
  before : Padding
  spaced : Spaced (Base64.encode (codec.encode value))
  after : Padding

/-- A line of white space, or one with a value. -/
inductive Row (codec : Codec α)
  | blank (padding : Padding)
  | value (row : ValueRow codec)

namespace ValueRow

/-- The bytes of a line with a value. -/
def bytes (row : ValueRow codec) : Octets :=
  row.before.bytes ++ row.spaced.bytes ++ row.after.bytes

/-- The digits that are found in a line. -/
def found (row : ValueRow codec) : Octets :=
  digitsFrom 0 row.spaced.bytes

/-- Every window of the line, up to the last digit, has a digit. -/
def WithinReach (row : ValueRow codec) : Prop :=
  Lines.WithinReach 0 row.spaced.bytes

end ValueRow

namespace Row

/-- The bytes of a line. -/
def bytes : Row codec → Octets
  | .blank padding => padding.bytes
  | .value row => row.bytes

/-- The value of a line that has one. -/
def value? : Row codec → Option (ValueRow codec)
  | .blank _ => none
  | .value row => some row

end Row

/-- The lines with values, in order. -/
def valueRows (rows : List (Row codec)) : List (ValueRow codec) :=
  rows.filterMap Row.value?

theorem valueRows_cons_blank (padding : Padding) (rows : List (Row codec)) :
    valueRows (.blank padding :: rows) = valueRows rows := rfl

theorem valueRows_cons_value (row : ValueRow codec) (rows : List (Row codec)) :
    valueRows (.value row :: rows) = row :: valueRows rows := rfl

/-- The stream of some lines, with a line feed behind the last one or not. -/
def stream (rows : List (Row codec)) (lastEnded : Bool) : Octets :=
  if lastEnded then ended (rows.map Row.bytes) else (ended (rows.map Row.bytes)).dropLast

/-! ## One line -/

theorem Padding.blank_bytes (padding : Padding) : Blank padding.bytes :=
  ⟨padding.text, Utf8.decode?_encode padding.text, trim_of_blank padding.blank⟩

theorem Padding.lineFeed_notMem_bytes (padding : Padding) : lineFeed ∉ padding.bytes := by
  intro h
  obtain ⟨c, hc, hnumber⟩ := Utf8.exists_of_mem_encode (by decide) h
  have hfeed : c = '\n' := Char.toNat_inj.mp hnumber
  exact padding.lineFeed_notMem (hfeed ▸ hc)

theorem lt_of_isGap {b : UInt8} (h : isGap b = true) : b < 0x80 := by
  simp only [isGap, Bool.or_eq_true, beq_iff_eq] at h
  rcases h with (((rfl | rfl) | rfl) | rfl) | rfl
  all_goals decide

namespace Spaced

variable {bytes : Octets} (spaced : Spaced (Base64.encode bytes))

theorem visible {b : UInt8} (hb : b ∈ spaced.bytes) (hgap : isGap b = false) :
    Base64.Visible b := by
  apply Base64.visible_of_mem_encode
  rw [← spaced.filter_bytes]
  exact List.mem_filter.mpr ⟨hb, by rw [hgap, Bool.not_false]⟩

theorem encode_ascii : Utf8.encode (Utf8.ascii spaced.bytes) = spaced.bytes := by
  apply Utf8.encode_ascii
  intro b hb
  cases hgap : isGap b with
  | true => exact lt_of_isGap hgap
  | false => exact lt_of_visible (spaced.visible hb hgap)

theorem bytes_ne_nil (h : bytes ≠ []) : spaced.bytes ≠ [] := by
  intro hnil
  have hfilter := spaced.filter_bytes
  rw [hnil] at hfilter
  exact Base64.encode_ne_nil h hfilter.symm

/-- White space around spaced digits is trimmed, and nothing else. -/
theorem trim_padded (h : bytes ≠ []) (before after : Padding) :
    trim (before.text ++ Utf8.ascii spaced.bytes ++ after.text) = Utf8.ascii spaced.bytes := by
  apply trim_between before.blank after.blank
  · simpa [Utf8.ascii] using spaced.bytes_ne_nil h
  · intro c hc
    rw [Utf8.ascii, List.head?_map] at hc
    obtain ⟨b, hb, rfl⟩ := Option.map_eq_some_iff.mp hc
    exact isBlank_char_of_visible (spaced.visible (List.mem_of_mem_head? hb) (spaced.first b hb))
  · intro c hc
    rw [Utf8.ascii, List.getLast?_map] at hc
    obtain ⟨b, hb, rfl⟩ := Option.map_eq_some_iff.mp hc
    exact isBlank_char_of_visible (spaced.visible (List.mem_of_getLast? hb) (spaced.last b hb))

end Spaced

namespace ValueRow

variable {row : ValueRow codec}

theorem lineFeed_notMem_bytes (row : ValueRow codec) : lineFeed ∉ row.bytes := by
  simp [bytes, row.before.lineFeed_notMem_bytes, row.spaced.lineFeed_notMem,
    row.after.lineFeed_notMem_bytes]

theorem bytes_ne_nil (h : codec.encode row.value ≠ []) : row.bytes ≠ [] := by
  simp [bytes, row.spaced.bytes_ne_nil h]

/-- A line answers for the digits that are found in it. -/
theorem spells (h : codec.encode row.value ≠ []) :
    Spells codec row.bytes (decode codec row.found) := by
  have htrim := row.spaced.trim_padded h row.before row.after
  refine ⟨row.before.text ++ Utf8.ascii row.spaced.bytes ++ row.after.text, ?_, ?_, ?_⟩
  · rw [bytes, Padding.bytes, Padding.bytes, ← row.spaced.encode_ascii, ← Utf8.encode_append,
      ← Utf8.encode_append, Utf8.decode?_encode, row.spaced.encode_ascii]
  · rw [htrim]
    simpa [Utf8.ascii] using row.spaced.bytes_ne_nil h
  · rw [digits, htrim, row.spaced.encode_ascii, found]

theorem found_prefix (row : ValueRow codec) :
    row.found <+: Base64.encode (codec.encode row.value) := by
  rw [← row.spaced.filter_bytes]
  exact digitsFrom_prefix 0 row.spaced.bytes

theorem found_eq_iff (row : ValueRow codec) :
    row.found = Base64.encode (codec.encode row.value) ↔ row.WithinReach := by
  rw [← row.spaced.filter_bytes]
  exact digitsFrom_eq_filter_iff 0 row.spaced.bytes

/-- A line is within reach if no run of gaps in it is long. -/
theorem withinReach_of_short_gaps
    (h : ∀ gaps, gaps <:+: row.spaced.bytes → (∀ b ∈ gaps, isGap b = true) →
      gaps.length ≤ 1020) : row.WithinReach :=
  Lines.withinReach_of_short_gaps h 0

theorem decode_found (hread : Stream.ReadBack codec row.value) (hreach : row.WithinReach) :
    decode codec row.found = .ok row.value := by
  rw [row.found_eq_iff.mpr hreach, decode_encode, hread.decode]
  rfl

end ValueRow

/-! ## The lines of a stream -/

theorem Row.lineFeed_notMem_bytes (row : Row codec) : lineFeed ∉ row.bytes := by
  cases row with
  | blank padding => exact padding.lineFeed_notMem_bytes
  | value row => exact row.lineFeed_notMem_bytes

theorem lineFeed_notMem_of_mem_rows (rows : List (Row codec)) :
    ∀ line ∈ rows.map Row.bytes, lineFeed ∉ line :=
  List.forall_mem_map.mpr fun row _ => row.lineFeed_notMem_bytes

/-- The lines of a stream are those it was made of, but for an empty one at the end. -/
theorem exists_rows_of_stream (rows : List (Row codec)) (lastEnded : Bool)
    (hread : ∀ row ∈ valueRows rows, Stream.ReadBack codec row.value) :
    ∃ found : List (Row codec), ofBytes (stream rows lastEnded) = found.map Row.bytes ∧
      valueRows found = valueRows rows := by
  have hfeeds := lineFeed_notMem_of_mem_rows rows
  cases lastEnded with
  | true => exact ⟨rows, ofBytes_ended hfeeds, rfl⟩
  | false =>
      rcases List.eq_nil_or_concat rows with rfl | ⟨init, last, rfl⟩
      · exact ⟨[], rfl, rfl⟩
      · have hstream : stream (init.concat last) false =
            ended (init.map Row.bytes) ++ last.bytes := by
          simp [stream, ended]
        rw [hstream, ofBytes_ended_append (lineFeed_notMem_of_mem_rows init)]
        by_cases hempty : last.bytes = []
        · refine ⟨init, by simp [hempty, ofBytes], ?_⟩
          cases last with
          | blank padding => simp [valueRows, Row.value?]
          | value row =>
              have hrow := hread row (by simp [valueRows, Row.value?])
              exact absurd hempty (ValueRow.bytes_ne_nil hrow.nonempty)
        · refine ⟨init.concat last, ?_, rfl⟩
          rw [ofBytes_of_not_mem last.lineFeed_notMem_bytes hempty]
          simp

/-! ## Calls -/

namespace Reader

/-- A reader after some number of calls. -/
def after (codec : Codec α) : Nat → Reader → Reader
  | 0, reader => reader
  | calls + 1, reader => (reader.next codec).2.after codec calls

/-- What the next call answers after some number of calls. -/
def answerAfter (codec : Codec α) (calls : Nat) (reader : Reader) : Except Error (Option α) :=
  ((reader.after codec calls).next codec).1

variable {reader reader' : Reader}

theorem answerAfter_congr (h : reader.next codec = reader'.next codec) (calls : Nat) :
    reader.answerAfter codec calls = reader'.answerAfter codec calls := by
  cases calls with
  | zero => exact congrArg Prod.fst h
  | succ calls => rw [answerAfter, answerAfter, after, after, h]

theorem next_blank (codec : Codec α) (padding : Padding) (counted : Nat) (lines : List Octets) :
    (Reader.mk (padding.bytes :: lines) counted).next codec =
      (Reader.mk lines (counted + 1)).next codec :=
  nextFrom_of_blank codec padding.blank_bytes counted lines

theorem next_value {row : ValueRow codec} (hread : Stream.ReadBack codec row.value)
    (counted : Nat) (lines : List Octets) :
    (Reader.mk (row.bytes :: lines) counted).next codec =
      (((decode codec row.found).mapError (.line (counted + 1))).map some,
        ⟨lines, counted + 1⟩) :=
  nextFrom_of_spells (ValueRow.spells hread.nonempty) counted lines

/-- What a call answers for the line with a value that it comes to, and for the end. -/
def AnswersFor (answer : Except Error (Option α)) : Option (ValueRow codec) → Prop
  | none => answer = .ok none
  | some row => ∃ number, answer = ((decode codec row.found).mapError (.line number)).map some

/-- The calls answer for the lines with values, one after the other, and then for the end. -/
theorem answersFor_answerAfter (rows : List (Row codec))
    (hread : ∀ row ∈ valueRows rows, Stream.ReadBack codec row.value) (calls counted : Nat) :
    AnswersFor ((Reader.mk (rows.map Row.bytes) counted).answerAfter codec calls)
      (valueRows rows)[calls]? := by
  induction rows generalizing calls counted with
  | nil =>
      induction calls with
      | zero => rfl
      | succ calls ih => exact ih
  | cons first rows ih =>
      cases first with
      | blank padding =>
          have hnext := next_blank codec padding counted (rows.map Row.bytes)
          rw [valueRows_cons_blank, List.map_cons, Row.bytes, answerAfter_congr hnext]
          exact ih hread calls (counted + 1)
      | value row =>
          obtain ⟨hrow, hmore⟩ := List.forall_mem_cons.mp hread
          have hnext := next_value hrow counted (rows.map Row.bytes)
          rw [valueRows_cons_value, List.map_cons, Row.bytes]
          cases calls with
          | zero => exact ⟨counted + 1, congrArg Prod.fst hnext⟩
          | succ calls =>
              rw [answerAfter, after, hnext]
              exact ih hmore calls (counted + 1)

end Reader

/-- If all lines are within reach, the values of a stream are those in its lines. -/
theorem values_of_rows (rows : List (Row codec))
    (hread : ∀ row ∈ valueRows rows, Stream.ReadBack codec row.value)
    (hreach : ∀ row ∈ valueRows rows, row.WithinReach) (counted : Nat) :
    (Stream.Reader.lines ⟨rows.map Row.bytes, counted⟩).values codec =
      (valueRows rows).map (.ok ·.value) := by
  induction rows generalizing counted with
  | nil => exact Stream.Reader.values_of_end rfl
  | cons first rows ih =>
      cases first with
      | blank padding =>
          have hnext : (Stream.Reader.lines ⟨padding.bytes :: rows.map Row.bytes, counted⟩).next
              codec = (Stream.Reader.lines ⟨rows.map Row.bytes, counted + 1⟩).next codec := by
            simp only [Stream.Reader.next, Reader.next_blank]
          rw [valueRows_cons_blank, ← ih hread hreach (counted + 1)]
          exact Stream.Reader.values_congr hnext
      | value value =>
          obtain ⟨hvalue, hmore⟩ := List.forall_mem_cons.mp hread
          obtain ⟨hfirst, hothers⟩ := List.forall_mem_cons.mp hreach
          have hnext : (Stream.Reader.lines ⟨value.bytes :: rows.map Row.bytes, counted⟩).next
              codec = (.ok (some value.value), .lines ⟨rows.map Row.bytes, counted + 1⟩) := by
            rw [Stream.Reader.next, Reader.next_value hvalue, value.decode_found hvalue hfirst]
            rfl
          rw [valueRows_cons_value, List.map_cons, List.map_cons, ← ih hmore hothers (counted + 1),
            Row.bytes, Stream.Reader.values_of_value (congrArg Prod.fst hnext), hnext]

/-! ## All values -/

/-- A stream holds values that are read back from their encodings, each in a line in base64 with
gaps between its digits and white space around them, among any blank lines. Call by call these
values come out in order, and then the end for ever, and so do the values of the stream. A line has
to be within reach for that: up to its last digit no window is filled with gaps. Otherwise only the
digits in front of these gaps are found, and the call answers for them. -/
theorem spaced_lines_read_back (rows : List (Row codec)) (lastEnded : Bool)
    (hread : ∀ row ∈ valueRows rows, Stream.ReadBack codec row.value) :
    let answer (calls : Nat) := (Reader.start (stream rows lastEnded)).answerAfter codec calls
    (∀ k row, (valueRows rows)[k]? = some row →
      (row.WithinReach → answer k = .ok (some row.value)) ∧
      (¬row.WithinReach → row.found <+: Base64.encode (codec.encode row.value) ∧
        row.found ≠ Base64.encode (codec.encode row.value) ∧
        ∃ number, answer k = ((decode codec row.found).mapError (.line number)).map some)) ∧
    (∀ k, (valueRows rows).length ≤ k → answer k = .ok none) ∧
    ((∀ row ∈ valueRows rows, row.WithinReach) →
      (Stream.Reader.start (stream rows lastEnded) .lines).values codec =
        (valueRows rows).map (.ok ·.value)) := by
  intro answer
  obtain ⟨found, hlines, hfound⟩ := exists_rows_of_stream rows lastEnded hread
  have hanswer (k : Nat) : answer k = (Reader.mk (found.map Row.bytes) 0).answerAfter codec k := by
    rw [← hlines]
    rfl
  rw [← hfound] at hread ⊢
  refine ⟨?_, ?_, ?_⟩
  · intro k row hrow
    have hanswers := Reader.answersFor_answerAfter found hread k 0
    rw [hrow] at hanswers
    obtain ⟨number, hnumber⟩ := hanswers
    rw [hanswer, hnumber]
    constructor
    · intro hreach
      rw [row.decode_found (hread row (List.mem_of_getElem? hrow)) hreach]
      rfl
    · intro hreach
      exact ⟨row.found_prefix, mt row.found_eq_iff.mp hreach, number, rfl⟩
  · intro k hk
    have hanswers := Reader.answersFor_answerAfter found hread k 0
    rw [List.getElem?_eq_none hk] at hanswers
    rw [hanswer]
    exact hanswers
  · intro hreach
    rw [← values_of_rows found hread hreach 0, ← hlines]
    rfl

/-- No white space. -/
def Padding.none : Padding :=
  ⟨[], List.forall_mem_nil _, List.not_mem_nil⟩

/-- Two numbers among blank lines, the first with gaps in it and white space around it. -/
theorem two_spaced_numbers_read_back :
    let seven : ValueRow uint32 :=
      ⟨7, ⟨['\u00a0'], List.forall_mem_singleton.mpr rfl, by decide⟩,
        ⟨[65, 65, 32, 65, 65, 66, 9, 119, 61, 61], by decide, by decide, by simp [isGap],
          by simp [isGap]⟩,
        ⟨['\r'], List.forall_mem_singleton.mpr rfl, by decide⟩⟩
    let eight : ValueRow uint32 :=
      ⟨8, .none,
        ⟨[65, 65, 65, 65, 67, 65, 61, 61], by decide, by decide, by simp [isGap],
          by simp [isGap]⟩, .none⟩
    let rows := [.blank ⟨['\t'], List.forall_mem_singleton.mpr rfl, by decide⟩, .value seven,
      .blank .none, .value eight]
    (∀ row ∈ valueRows rows, Stream.ReadBack uint32 row.value) ∧
      (Stream.Reader.start (stream rows false) .lines).values uint32 = [.ok 7, .ok 8] := by
  intro seven eight rows
  have hread : ∀ row ∈ valueRows rows, Stream.ReadBack uint32 row.value :=
    List.forall_mem_cons.mpr ⟨⟨by decide, by decide⟩,
      List.forall_mem_singleton.mpr ⟨by decide, by decide⟩⟩
  obtain ⟨-, -, hvalues⟩ := spaced_lines_read_back rows false hread
  refine ⟨hread, hvalues ?_⟩
  have hshort (row : ValueRow uint32) (h : row.spaced.bytes.length ≤ 1020) : row.WithinReach :=
    row.withinReach_of_short_gaps fun gaps hpart _ => hpart.length_le.trans h
  exact List.forall_mem_cons.mpr ⟨hshort seven (by decide),
    List.forall_mem_singleton.mpr (hshort eight (by decide))⟩

/-- The number seven in a line, with some gaps between its digits. -/
def sevenSpread (gaps : Nat) : ValueRow uint32 where
  value := 7
  before := .none
  spaced :=
    { bytes := [65, 65, 65, 65] ++ (List.replicate gaps 32 ++ [66, 119, 61, 61])
      filter_bytes := by
        have hgaps : (List.replicate gaps (32 : UInt8)).filter (!isGap ·) = [] := by
          rw [List.filter_replicate]
          rfl
        rw [List.filter_append, List.filter_append, hgaps]
        decide
      lineFeed_notMem := by simp [lineFeed]
      first := by simp [isGap]
      last := by
        rw [List.getLast?_append_of_ne_nil, List.getLast?_append_of_ne_nil]
        all_goals simp [isGap] }
  after := .none

theorem found_sevenSpread {gaps : Nat} (h : 2044 ≤ gaps) :
    (sevenSpread gaps).found = [65, 65, 65, 65] := by
  apply digitsFrom_of_long_gap
  · exact List.cons_ne_nil _ _
  · simp [isGap]
  · intro b hb
    rw [List.eq_of_mem_replicate hb]
    rfl
  · decide
  · rw [List.length_replicate]
    exact Nat.add_le_add_left h 4

/-- A number is lost behind gaps that fill a window, although it is read back from its encoding. -/
theorem number_lost_behind_long_gap :
    let row := sevenSpread 2044
    let reader := Reader.start (stream [.value row] true)
    Stream.ReadBack uint32 row.value ∧
      reader.answerAfter uint32 0 = .error (.line 1 (.xdr .endOfInput)) ∧
      reader.answerAfter uint32 0 ≠ .ok (some row.value) := by
  intro row reader
  have hread : Stream.ReadBack uint32 row.value := ⟨by decide, by decide⟩
  have hreader : reader = ⟨[row.bytes], 0⟩ := by
    have hlines := ofBytes_ended (lineFeed_notMem_of_mem_rows [.value row])
    exact congrArg (Reader.mk · 0) hlines
  have hanswer : reader.answerAfter uint32 0 = .error (.line 1 (.xdr .endOfInput)) := by
    have hdecode : decode uint32 row.found = .error (.xdr .endOfInput) := by
      rw [found_sevenSpread (Nat.le_refl 2044)]
      decide
    rw [hreader, Reader.answerAfter, Reader.after, Reader.next_value hread, hdecode]
    rfl
  refine ⟨hread, hanswer, ?_⟩
  rw [hanswer]
  nofun

end LedgerExport.Lines
