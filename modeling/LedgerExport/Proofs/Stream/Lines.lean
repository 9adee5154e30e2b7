import LedgerExport.Proofs.Stream.Reader
import LedgerExport.Proofs.Stream.Windows
import LedgerExport.Proofs.Text.Base64
import LedgerExport.Proofs.Text.Blank

/-!
# Streams of base64 lines

A line of a stream is not text, or is blank, or spells what its digits decode to. A
line that was written in base64 is text without a blank in it, so nothing of it is
trimmed or passed over, and it answers what its bytes decode to by themselves.
-/

namespace LedgerExport

open Xdr

variable {α : Type}

/-! ## Lines of visible characters -/

theorem isBlank_char_of_visible {c : UInt8} (h : Base64.Visible c) :
    isBlank (Utf8.char c.toNat []) = false := by
  obtain ⟨hlow, hhigh⟩ := h
  have hvalid : c.toNat.isValidChar := Or.inl (by omega)
  have hval : (Utf8.char c.toNat []).toNat = c.toNat := Utf8.val_ofNat hvalid
  rw [isBlank, hval]
  simp only [Bool.or_eq_false_iff, Bool.and_eq_false_iff, decide_eq_false_iff_not,
    beq_eq_false_iff_ne]
  omega

theorem lt_of_visible {c : UInt8} (h : Base64.Visible c) : c < 0x80 :=
  UInt8.lt_iff_toNat_lt.mpr (Nat.lt_succ_of_le (Nat.le_succ_of_le h.2))

/-- Visible characters are a text without blanks. -/
theorem isBlank_of_mem_ascii {line : Octets} (h : ∀ c ∈ line, Base64.Visible c) :
    ∀ c ∈ Utf8.ascii line, isBlank c = false := by
  intro c hc
  obtain ⟨b, hb, rfl⟩ := List.mem_map.mp hc
  exact isBlank_char_of_visible (h b hb)

namespace Lines

/-! ## Kinds of lines -/

/-- Whether a line is text. -/
def isText (line : Octets) : Bool :=
  (Utf8.decode? line).isSome

/-- A line of nothing but white space. -/
def Blank (line : Octets) : Prop :=
  ∃ text, Utf8.decode? line = some text ∧ trim text = []

/-- A line of text that is not blank, and what its digits decode to. -/
def Spells (codec : Codec α) (line : Octets) (result : Except LineFault α) : Prop :=
  ∃ text, Utf8.decode? line = some text ∧ trim text ≠ [] ∧ decode codec (digits text) = result

theorem Blank.isText {line : Octets} (h : Blank line) : isText line = true := by
  obtain ⟨text, htext, -⟩ := h
  rw [Lines.isText, htext, Option.isSome_some]

theorem Spells.isText {codec : Codec α} {line : Octets} {result : Except LineFault α}
    (h : Spells codec line result) : isText line = true := by
  obtain ⟨text, htext, -⟩ := h
  rw [Lines.isText, htext, Option.isSome_some]

namespace Reader

theorem nextFrom_of_not_text (codec : Codec α) {line : Octets} (h : isText line = false)
    (counted : Nat) (lines : List Octets) :
    nextFrom codec counted (line :: lines) = (.error .lineNotUtf8, ⟨lines, counted⟩) := by
  have hnone : Utf8.decode? line = none := Option.isNone_iff_eq_none.mp (by simpa [isText] using h)
  simp only [nextFrom, hnone]

theorem nextFrom_of_blank (codec : Codec α) {line : Octets} (h : Blank line) (counted : Nat)
    (lines : List Octets) :
    nextFrom codec counted (line :: lines) = nextFrom codec (counted + 1) lines := by
  obtain ⟨text, htext, htrim⟩ := h
  simp only [nextFrom, htext, htrim, List.isEmpty_nil, if_true]

theorem nextFrom_of_spells {codec : Codec α} {line : Octets} {result : Except LineFault α}
    (h : Spells codec line result) (counted : Nat) (lines : List Octets) :
    nextFrom codec counted (line :: lines) =
      ((result.mapError (.line (counted + 1))).map some, ⟨lines, counted + 1⟩) := by
  obtain ⟨text, htext, htrim, hdecode⟩ := h
  have hnonempty : (trim text).isEmpty = false := List.isEmpty_eq_false_iff.mpr htrim
  simp only [nextFrom, htext, hnonempty, hdecode, Bool.false_eq_true, if_false]
  cases result with
  | ok value => rfl
  | error fault => rfl

end Reader

/-! ## Lines of base64 -/

theorem isGap_of_visible {c : UInt8} (h : Base64.Visible c) : isGap c = false := by
  have hne : ∀ gap : UInt8, gap.toNat < 33 → (c == gap) = false := by
    intro gap hgap
    rw [beq_eq_false_iff_ne]
    rintro rfl
    exact absurd h.1 (Nat.not_le.mpr hgap)
  simp only [isGap, hne 32 (by decide), hne 9 (by decide), hne 10 (by decide), hne 12 (by decide),
    hne 13 (by decide), Bool.or_false]

/-- Digits without gaps are all found. -/
theorem digitsFrom_of_visible {bytes : Octets} (h : ∀ c ∈ bytes, Base64.Visible c)
    (before : Nat) : digitsFrom before bytes = bytes := by
  have hgap : ∀ b ∈ bytes, isGap b = false := fun b hb => isGap_of_visible (h b hb)
  have hreach : WithinReach before bytes := by
    apply withinReach_of_short_gaps
    intro gaps hpart hgaps
    cases gaps with
    | nil => exact Nat.zero_le _
    | cons b gaps =>
        have hb := hgap b (hpart.subset List.mem_cons_self)
        rw [hgaps b List.mem_cons_self] at hb
        cases hb
  rw [(digitsFrom_eq_filter_iff before bytes).mpr hreach, List.filter_eq_self]
  intro b hb
  rw [hgap b hb, Bool.not_false]

theorem lineFeed_notMem_encode (bytes : Octets) : lineFeed ∉ Base64.encode bytes := by
  intro h
  exact absurd (Base64.visible_of_mem_encode lineFeed h) (by decide)

theorem ofBytes_append_cons {line : Octets} (h : lineFeed ∉ line) (rest : Octets) :
    ofBytes (line ++ lineFeed :: rest) = line :: ofBytes rest := by
  induction line with
  | nil => simp [ofBytes]
  | cons b line ih =>
      obtain ⟨hb, hline⟩ := not_or.mp (mt List.mem_cons.mpr h)
      rw [List.cons_append, ofBytes, if_neg (Ne.symm hb), ih hline]

theorem ofBytes_of_not_mem {line : Octets} (h : lineFeed ∉ line) (hne : line ≠ []) :
    ofBytes line = [line] := by
  induction line with
  | nil => exact absurd rfl hne
  | cons b line ih =>
      obtain ⟨hb, hline⟩ := not_or.mp (mt List.mem_cons.mpr h)
      rw [ofBytes, if_neg (Ne.symm hb)]
      cases line with
      | nil => rfl
      | cons c line => rw [ih hline (List.cons_ne_nil c line)]

/-- Lines, each with its line feed. -/
def ended (lines : List Octets) : Octets :=
  lines.flatMap (· ++ [lineFeed])

theorem ended_cons (line : Octets) (lines : List Octets) :
    ended (line :: lines) = line ++ lineFeed :: ended lines := by
  simp [ended]

theorem ofBytes_ended_append {lines : List Octets} (h : ∀ line ∈ lines, lineFeed ∉ line)
    (rest : Octets) : ofBytes (ended lines ++ rest) = lines ++ ofBytes rest := by
  induction lines with
  | nil => rfl
  | cons line lines ih =>
      obtain ⟨hline, hlines⟩ := List.forall_mem_cons.mp h
      rw [ended_cons, List.append_assoc, List.cons_append, ofBytes_append_cons hline, ih hlines,
        List.cons_append]

theorem ofBytes_ended {lines : List Octets} (h : ∀ line ∈ lines, lineFeed ∉ line) :
    ofBytes (ended lines) = lines := by
  have happend := ofBytes_ended_append h []
  rwa [List.append_nil, ofBytes, List.append_nil] at happend

/-- A line in base64 answers what its bytes decode to. -/
theorem decode_encode (codec : Codec α) (bytes : Octets) :
    decode codec (Base64.encode bytes) = (codec.decode bytes).mapError .xdr := by
  simp only [decode, Base64.decode_encode, Layout.decode]
  cases hread : codec.read bytes with
  | ok found =>
      obtain ⟨value, rest⟩ := found
      cases rest with
      | nil => rfl
      | cons b rest => rfl
  | error fault => cases fault <;> rfl

theorem spells_encode (codec : Codec α) {bytes : Octets} (h : bytes ≠ []) :
    Spells codec (Base64.encode bytes) ((codec.decode bytes).mapError .xdr) := by
  have hvisible : ∀ c ∈ Base64.encode bytes, Base64.Visible c := Base64.visible_of_mem_encode
  have htext : Utf8.encode (Utf8.ascii (Base64.encode bytes)) = Base64.encode bytes :=
    Utf8.encode_ascii fun c hc => lt_of_visible (hvisible c hc)
  have htrim := trim_of_not_blank (isBlank_of_mem_ascii hvisible)
  refine ⟨Utf8.ascii (Base64.encode bytes), ?_, ?_, ?_⟩
  · conv_lhs => rw [← htext, Utf8.decode?_encode]
  · rw [htrim]
    intro hnil
    rw [hnil] at htext
    exact Base64.encode_ne_nil h htext.symm
  · rw [digits, htrim, htext, digitsFrom_of_visible hvisible, decode_encode]

/-- A line in base64 is one step of a reader: it answers for its bytes, and is counted. -/
theorem Reader.nextFrom_encode (codec : Codec α) {bytes : Octets} (h : bytes ≠ []) (counted : Nat)
    (lines : List Octets) :
    nextFrom codec counted (Base64.encode bytes :: lines) =
      (((codec.decode bytes).mapError fun fault => .line (counted + 1) (.xdr fault)).map some,
        ⟨lines, counted + 1⟩) := by
  rw [nextFrom_of_spells (spells_encode codec h)]
  cases codec.decode bytes with
  | ok value => rfl
  | error fault => rfl

end Lines

end LedgerExport
