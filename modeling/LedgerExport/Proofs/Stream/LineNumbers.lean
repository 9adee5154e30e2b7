import LedgerExport.Proofs.Stream.Lines

/-!
# The numbers of lines in errors

A call passes over the blank lines in front, and then settles one line or comes to
the end. What it counts are the lines of text that it takes. So the number in an
error is that of the line in the stream, unless a line in front of it is not text:
each such line makes the number one too small.

## Implementation notes

A line is numbered by its place in the bytes of the stream: by the line feeds in front
of it. What the reader counts is brought to that form.
-/

namespace LedgerExport.Lines

open Xdr

variable {α : Type} {codec : Codec α}

/-! ## One call -/

namespace Reader

/-- How a call ends that has come to some lines: at the end of the stream, with a line that is
not text, or with what a line spells. -/
inductive Settles (codec : Codec α) (counted : Nat) :
    List Octets → Except Error (Option α) × Reader → Prop
  | finish : Settles codec counted [] (.ok none, ⟨[], counted⟩)
  | notText {line : Octets} (lines : List Octets) (h : isText line = false) :
      Settles codec counted (line :: lines) (.error .lineNotUtf8, ⟨lines, counted⟩)
  | spells {line : Octets} {result : Except LineFault α} (lines : List Octets)
      (h : Spells codec line result) :
      Settles codec counted (line :: lines)
        ((result.mapError (.line (counted + 1))).map some, ⟨lines, counted + 1⟩)

/-- A call passes over blank lines, which it counts, and then settles. -/
theorem exists_settles (codec : Codec α) (counted : Nat) (lines : List Octets) :
    ∃ blank rest, lines = blank ++ rest ∧ (∀ line ∈ blank, Blank line) ∧
      Settles codec (counted + blank.length) rest (nextFrom codec counted lines) := by
  induction lines generalizing counted with
  | nil => exact ⟨[], [], rfl, List.forall_mem_nil _, .finish⟩
  | cons line lines ih =>
      cases htext : Utf8.decode? line with
      | none =>
          have hnot : isText line = false := by rw [isText, htext, Option.isSome_none]
          refine ⟨[], line :: lines, rfl, List.forall_mem_nil _, ?_⟩
          rw [nextFrom_of_not_text codec hnot]
          exact .notText lines hnot
      | some text =>
          by_cases htrim : trim text = []
          · have hblank : Blank line := ⟨text, htext, htrim⟩
            obtain ⟨blank, rest, rfl, hall, hsettles⟩ := ih (counted + 1)
            refine ⟨line :: blank, rest, rfl, List.forall_mem_cons.mpr ⟨hblank, hall⟩, ?_⟩
            rw [nextFrom_of_blank codec hblank, List.length_cons, Nat.add_comm blank.length,
              ← Nat.add_assoc]
            exact hsettles
          · have hspells : Spells codec line (decode codec (digits text)) :=
              ⟨text, htext, htrim, rfl⟩
            refine ⟨[], line :: lines, rfl, List.forall_mem_nil _, ?_⟩
            rw [nextFrom_of_spells hspells]
            exact .spells lines hspells

namespace Settles

variable {counted : Nat} {rest : List Octets} {outcome : Except Error (Option α) × Reader}

/-- The line that a call settles is the one it takes, and is counted if it is text. -/
theorem exists_taken (h : Settles codec counted rest outcome) :
    ∃ taken, rest = taken ++ outcome.2.lines ∧
      outcome.2.counted = counted + taken.countP isText := by
  cases h with
  | finish => exact ⟨[], rfl, rfl⟩
  | @notText line lines hnot => exact ⟨[line], rfl, by simp [hnot]⟩
  | @spells line result lines hspells => exact ⟨[line], rfl, by simp [hspells.isText]⟩

/-- Invalid data is a line whose digits are no value, and the error has its number. -/
theorem exists_failing (h : Settles codec counted rest outcome) {error : Error}
    (herror : outcome.1 = .error error) (hcategory : error.category = .invalidData) :
    ∃ line fault, rest = line :: outcome.2.lines ∧ Spells codec line (.error fault) ∧
      error = .line (counted + 1) fault := by
  cases h with
  | finish => cases herror
  | notText lines hnot =>
      cases herror
      cases hcategory
  | @spells line result lines hspells =>
      cases result with
      | ok value => cases herror
      | error fault =>
          cases herror
          exact ⟨line, fault, rfl, hspells, rfl⟩

end Settles

theorem countP_isText_of_blank {blank : List Octets} (h : ∀ line ∈ blank, Blank line) :
    blank.countP isText = blank.length :=
  List.countP_eq_length.mpr fun line hline => (h line hline).isText

/-- A call takes lines from the front and counts those that are text. -/
theorem exists_taken_of_next (codec : Codec α) (reader : Reader) :
    ∃ taken, reader.lines = taken ++ (reader.next codec).2.lines ∧
      (reader.next codec).2.counted = reader.counted + taken.countP isText := by
  obtain ⟨blank, rest, hlines, hblank, hsettles⟩ :=
    exists_settles codec reader.counted reader.lines
  obtain ⟨taken, hrest, hcounted⟩ := hsettles.exists_taken
  refine ⟨blank ++ taken, ?_, ?_⟩
  · rw [hlines, hrest, List.append_assoc, next]
  · rw [List.countP_append, countP_isText_of_blank hblank, ← Nat.add_assoc]
    exact hcounted

/-! ## Any calls -/

/-- The readers that calls on a stream lead to, each call with a type of its own. -/
inductive Reached (bytes : Octets) : Reader → Prop
  | start : Reached bytes (start bytes)
  | next {reader : Reader} {β : Type} (codec : Codec β) (before : Reached bytes reader) :
      Reached bytes (reader.next codec).2

/-- Calls take lines from the front of a stream, and have counted those of them that are text. -/
theorem Reached.exists_taken {bytes : Octets} {reader : Reader} (h : Reached bytes reader) :
    ∃ taken, ofBytes bytes = taken ++ reader.lines ∧ reader.counted = taken.countP isText := by
  induction h with
  | start => exact ⟨[], rfl, rfl⟩
  | @next reader β codec before ih =>
      obtain ⟨taken, hlines, hcounted⟩ := ih
      obtain ⟨more, hmore, hnext⟩ := exists_taken_of_next codec reader
      refine ⟨taken ++ more, ?_, ?_⟩
      · rw [hlines, List.append_assoc, ← hmore]
      · rw [hnext, hcounted, List.countP_append]

end Reader

/-! ## Places in a stream -/

/-- A line at its place in a stream: behind a line feed or at the start, and up to the next line
feed or the end. -/
structure Place (bytes : Octets) where
  before : Octets
  line : Octets
  behind : Octets
  bytes_eq : bytes = before ++ line ++ behind
  before_ended : before = [] ∨ ∃ front, before = front ++ [lineFeed]
  lineFeed_notMem : lineFeed ∉ line
  behind_begins : behind = [] ∨ ∃ more, behind = lineFeed :: more

namespace Place

variable {bytes : Octets}

/-- The number of a line, which is one more than the line feeds in front of it. -/
def number (place : Place bytes) : Nat :=
  place.before.count lineFeed + 1

/-- The lines in front of a line. -/
def earlier (place : Place bytes) : List Octets :=
  ofBytes place.before

/-- The lines behind a line. -/
def later (place : Place bytes) : List Octets :=
  ofBytes place.behind.tail

end Place

theorem ended_eq_nil_or (lines : List Octets) :
    ended lines = [] ∨ ∃ front, ended lines = front ++ [lineFeed] := by
  induction lines with
  | nil => exact .inl rfl
  | cons line lines ih =>
      right
      rw [ended_cons]
      rcases ih with hnil | ⟨front, hfront⟩
      · exact ⟨line, by rw [hnil]⟩
      · exact ⟨line ++ lineFeed :: front, by rw [hfront, List.append_assoc, List.cons_append]⟩

theorem count_lineFeed_ended {lines : List Octets} (h : ∀ line ∈ lines, lineFeed ∉ line) :
    (ended lines).count lineFeed = lines.length := by
  induction lines with
  | nil => rfl
  | cons line lines ih =>
      obtain ⟨hline, hlines⟩ := List.forall_mem_cons.mp h
      rw [ended_cons, List.count_append, List.count_eq_zero_of_not_mem hline, List.count_cons_self,
        ih hlines, Nat.zero_add, List.length_cons]

/-- The first line goes up to the first line feed, or to the end. -/
theorem first_of_ofBytes {bytes line : Octets} {lines : List Octets}
    (h : ofBytes bytes = line :: lines) :
    lineFeed ∉ line ∧ (bytes = line ∧ lines = [] ∨
      ∃ more, bytes = line ++ lineFeed :: more ∧ ofBytes more = lines) := by
  by_cases hmem : lineFeed ∈ bytes
  · obtain ⟨first, more, rfl, hfirst⟩ := List.eq_append_cons_of_mem hmem
    rw [ofBytes_append_cons hfirst] at h
    cases h
    exact ⟨hfirst, .inr ⟨more, rfl, rfl⟩⟩
  · have hne : bytes ≠ [] := by
      rintro rfl
      cases h
    rw [ofBytes_of_not_mem hmem hne] at h
    cases h
    exact ⟨hmem, .inl ⟨rfl, rfl⟩⟩

/-- Some lines in front of a stream stand there with their line feeds, and the others are the
lines of the bytes behind them. -/
theorem eq_ended_append {bytes : Octets} {taken rest : List Octets} (hne : rest ≠ [])
    (h : ofBytes bytes = taken ++ rest) :
    (∀ line ∈ taken, lineFeed ∉ line) ∧
      ∃ behind, bytes = ended taken ++ behind ∧ ofBytes behind = rest := by
  induction taken generalizing bytes with
  | nil => exact ⟨List.forall_mem_nil _, bytes, rfl, h⟩
  | cons line taken ih =>
      obtain ⟨hline, hplace⟩ := first_of_ofBytes h
      rcases hplace with ⟨-, hnil⟩ | ⟨more, rfl, hmore⟩
      · exact absurd (List.append_eq_nil_iff.mp hnil).2 hne
      · obtain ⟨htaken, behind, rfl, hbehind⟩ := ih hmore
        refine ⟨List.forall_mem_cons.mpr ⟨hline, htaken⟩, behind, ?_, hbehind⟩
        rw [ended_cons, List.append_assoc, List.cons_append]

/-- Every line of a stream has a place, and its number is its position among the lines. -/
theorem exists_place_of_ofBytes {bytes line : Octets} {taken rest : List Octets}
    (h : ofBytes bytes = taken ++ line :: rest) :
    ∃ place : Place bytes, place.line = line ∧ place.earlier = taken ∧ place.later = rest ∧
      place.number = taken.length + 1 := by
  obtain ⟨htaken, found, rfl, hfound⟩ := eq_ended_append (List.cons_ne_nil line rest) h
  obtain ⟨hline, hplace⟩ := first_of_ofBytes hfound
  have hearlier : ofBytes (ended taken) = taken := ofBytes_ended htaken
  have hnumber : (ended taken).count lineFeed + 1 = taken.length + 1 :=
    congrArg (· + 1) (count_lineFeed_ended htaken)
  have hended := ended_eq_nil_or taken
  rcases hplace with ⟨rfl, rfl⟩ | ⟨more, rfl, hmore⟩
  · have hbytes : ended taken ++ found = ended taken ++ found ++ [] := (List.append_nil _).symm
    exact ⟨⟨ended taken, found, [], hbytes, hended, hline, .inl rfl⟩, rfl, hearlier, rfl, hnumber⟩
  · have hbytes : ended taken ++ (line ++ lineFeed :: more) =
        ended taken ++ line ++ lineFeed :: more := (List.append_assoc _ _ _).symm
    exact ⟨⟨ended taken, line, lineFeed :: more, hbytes, hended, hline, .inr ⟨more, rfl⟩⟩, rfl,
      hearlier, hmore, hnumber⟩

/-! ## The number in an error -/

/-- Whatever the bytes of a stream are and whatever calls came before, an error of invalid data
is about a line of text whose digits are no value. The call passed over blank lines only to come
to it, and stands right behind it. The number in the error counts the line itself and the lines of
text in front of it, so it falls short of the number of the line by the earlier lines that are not
text, and is the number of the line just if there is none. -/
theorem invalid_data_names_line {bytes : Octets} {reader : Reader}
    (hreached : Reader.Reached bytes reader) (codec : Codec α) {error : Error}
    (herror : (reader.next codec).1 = .error error) (hcategory : error.category = .invalidData) :
    ∃ (number : Nat) (fault : LineFault) (place : Place bytes),
      error = .line number fault ∧ Spells codec place.line (.error fault) ∧
      (∃ blank, reader.lines = blank ++ place.line :: place.later ∧ ∀ line ∈ blank, Blank line) ∧
      (reader.next codec).2.lines = place.later ∧
      number = place.earlier.countP isText + 1 ∧
      number + place.earlier.countP (!isText ·) = place.number ∧
      (number = place.number ↔ ∀ line ∈ place.earlier, isText line = true) := by
  obtain ⟨taken, hstream, hcounted⟩ := hreached.exists_taken
  obtain ⟨blank, rest, hlines, hblank, hsettles⟩ :=
    Reader.exists_settles codec reader.counted reader.lines
  obtain ⟨line, fault, hrest, hspells, rfl⟩ := hsettles.exists_failing herror hcategory
  have hplace : ofBytes bytes = (taken ++ blank) ++ line :: (reader.next codec).2.lines := by
    rw [hstream, hlines, hrest, List.append_assoc, Reader.next]
  obtain ⟨place, rfl, hearlier, hlater, hnumber⟩ := exists_place_of_ofBytes hplace
  have hcount : reader.counted + blank.length = place.earlier.countP isText := by
    rw [hearlier, hcounted, List.countP_append, Reader.countP_isText_of_blank hblank]
  have hall : place.earlier.length =
      place.earlier.countP isText + place.earlier.countP (!isText ·) := by
    rw [List.length_eq_countP_add_countP isText]
    simp only [Bool.not_eq_true, Bool.decide_eq_false]
  rw [← hearlier] at hnumber
  refine ⟨_, fault, place, rfl, hspells, ⟨blank, ?_, hblank⟩, hlater.symm, ?_, ?_, ?_⟩
  · rw [hlines, hrest, hlater, Reader.next]
  · rw [hcount]
  · rw [hcount, hnumber, hall]
    omega
  · rw [hcount, hnumber, ← List.countP_eq_length]
    omega

theorem spells_single_digit : Spells uint32 [65] (.error .base64) := by
  have hdigits : digits ['A'] = [65] :=
    digitsFrom_of_visible (List.forall_mem_singleton.mpr ⟨by decide, by decide⟩) 0
  refine ⟨['A'], rfl, by decide, ?_⟩
  rw [hdigits]
  rfl

/-- A single digit behind a blank line is reported as the second line. -/
theorem digit_behind_blank_line_named :
    let bytes : Octets := [9, 10, 65, 10]
    let reader := Reader.start bytes
    Reader.Reached bytes reader ∧ (reader.next uint32).1 = .error (.line 2 .base64) ∧
      (Error.line 2 .base64).category = .invalidData ∧
      ∃ place : Place bytes, Spells uint32 place.line (.error .base64) ∧
        2 + place.earlier.countP (!isText ·) = place.number := by
  intro bytes reader
  have hblank : Blank [9] := ⟨['\t'], rfl, rfl⟩
  have hanswer : (reader.next uint32).1 = .error (.line 2 .base64) := by
    change (Reader.nextFrom uint32 0 [[9], [65]]).1 = _
    rw [Reader.nextFrom_of_blank uint32 hblank, Reader.nextFrom_of_spells spells_single_digit]
    rfl
  obtain ⟨number, fault, place, herror, hspells, -, -, -, hnumber, -⟩ :=
    invalid_data_names_line .start uint32 hanswer rfl
  cases herror
  exact ⟨.start, hanswer, rfl, place, hspells, hnumber⟩

/-- A single digit behind a line that is not text is reported as the first line, and is the
second. -/
theorem digit_behind_line_not_text_misnamed :
    let bytes : Octets := [255, 10, 65, 10]
    let reader := ((Reader.start bytes).next uint32).2
    Reader.Reached bytes reader ∧ (reader.next uint32).1 = .error (.line 1 .base64) ∧
      ∃ place : Place bytes, reader.lines = [place.line] ∧
        Spells uint32 place.line (.error .base64) ∧ place.number = 2 := by
  intro bytes reader
  have hreader : reader = ⟨[[65]], 0⟩ := rfl
  have hanswer : (reader.next uint32).1 = .error (.line 1 .base64) := by
    rw [hreader, Reader.next, Reader.nextFrom_of_spells spells_single_digit]
    rfl
  let place : Place bytes :=
    ⟨[255, 10], [65], [10], rfl, .inr ⟨[255], rfl⟩, by decide, .inr ⟨[], rfl⟩⟩
  exact ⟨.next uint32 .start, hanswer, place, rfl, spells_single_digit, rfl⟩

end LedgerExport.Lines
