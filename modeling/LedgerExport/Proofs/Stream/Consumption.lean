import LedgerExport.Proofs.Stream.Frames

/-!
# What the calls of a reader take

Whatever the bytes of a stream are, each call takes a piece from the front of
what is left: a frame, a header that announces too much, or all that is left
where that ends too early. A piece has at least one byte, so the calls come to
the end of the stream, and the answers up to there are the values of the stream.

## Implementation notes

`Cuts` says on bytes alone which piece is next. The reader keeps pieces instead
of bytes, and `Reader.left` is what these spell.
-/

namespace LedgerExport

open Xdr

variable {α : Type}

namespace Frames

/-! ## The next piece -/

/-- The piece in front of some bytes, and the bytes behind it. -/
inductive Cuts : Octets → Piece → Octets → Prop
  | shortHeader {bytes : Octets} (nonempty : bytes ≠ []) (short : bytes.length < 4) :
      Cuts bytes (.shortHeader bytes) []
  | oversized {header : FixedBytes 4} {rest : Octets} (above : maxSize < sizeOf header) :
      Cuts (header.bytes ++ rest) (.oversized header) rest
  | payload {header : FixedBytes 4} {content rest : Octets} (within : sizeOf header ≤ maxSize)
      (whole : content.length = sizeOf header) :
      Cuts (header.bytes ++ (content ++ rest)) (.payload header content) rest
  | shortPayload {header : FixedBytes 4} {content : Octets} (within : sizeOf header ≤ maxSize)
      (short : content.length < sizeOf header) :
      Cuts (header.bytes ++ content) (.shortPayload header content) []

namespace Cuts

variable {bytes rest : Octets} {piece : Piece}

theorem eq_append (h : Cuts bytes piece rest) : bytes = piece.bytes ++ rest := by
  cases h with
  | shortHeader _ _ => exact (List.append_nil bytes).symm
  | oversized _ => rfl
  | payload _ _ => exact (List.append_assoc _ _ _).symm
  | shortPayload _ _ => exact (List.append_nil _).symm

theorem bytes_ne_nil (h : Cuts bytes piece rest) : piece.bytes ≠ [] := by
  have hheader (header : FixedBytes 4) : header.bytes ≠ [] := by
    intro hnil
    have hlength := header.length_bytes
    rw [hnil] at hlength
    cases hlength
  cases h with
  | shortHeader hne _ => exact hne
  | oversized _ => exact hheader _
  | payload _ _ => exact List.append_ne_nil_of_left_ne_nil (hheader _) _
  | shortPayload _ _ => exact List.append_ne_nil_of_left_ne_nil (hheader _) _

end Cuts

theorem split_eq_none_iff {n : Nat} {bytes : Octets} : split n bytes = none ↔ bytes.length < n := by
  constructor
  · intro h
    induction n generalizing bytes with
    | zero => cases h
    | succ n ih =>
        cases bytes with
        | nil => exact Nat.succ_pos n
        | cons b bytes =>
            rw [split] at h
            split at h
            · cases h
            · next hmore => exact Nat.succ_lt_succ (ih hmore)
  · intro hlt
    cases h : split n bytes with
    | none => rfl
    | some found =>
        have hlength := length_of_split h
        omega

/-- There is a piece in front of all bytes but none. -/
theorem exists_cuts {bytes : Octets} (hne : bytes ≠ []) : ∃ piece rest, Cuts bytes piece rest := by
  cases hheader : split 4 bytes with
  | none => exact ⟨_, [], .shortHeader hne (split_eq_none_iff.mp hheader)⟩
  | some found =>
      obtain ⟨header, behind⟩ := found
      rw [← bytes_append_of_split hheader]
      by_cases habove : maxSize < sizeOf header
      · exact ⟨_, behind, .oversized habove⟩
      · have hwithin := Nat.le_of_not_lt habove
        cases hcontent : split (sizeOf header) behind with
        | none => exact ⟨_, [], .shortPayload hwithin (split_eq_none_iff.mp hcontent)⟩
        | some found =>
            obtain ⟨content, rest⟩ := found
            rw [← bytes_append_of_split hcontent]
            exact ⟨_, rest, .payload hwithin content.length_bytes⟩

/-- The pieces of a stream are the one in front and those of the bytes behind it. -/
theorem pieces_of_cuts {bytes rest : Octets} {piece : Piece} (h : Cuts bytes piece rest) :
    pieces bytes = piece :: pieces rest := by
  cases h with
  | shortHeader hne hshort =>
      have hempty : bytes.isEmpty = false := List.isEmpty_eq_false_iff.mpr hne
      rw [pieces_nil, pieces]
      split
      · rw [hempty]
        rfl
      · next hfound =>
          rw [split_eq_none_iff.mpr hshort] at hfound
          cases hfound
  | oversized habove => exact pieces_oversized habove rest
  | @payload header content _ hwithin hwhole =>
      have hsplit := split_bytes_append ⟨content, hwhole⟩ rest
      apply pieces_of_cut
      rw [cut, if_neg (Nat.not_lt.mpr hwithin), hsplit]
  | @shortPayload header content hwithin hshort =>
      apply pieces_of_cut
      rw [cut, if_neg (Nat.not_lt.mpr hwithin), split_eq_none_iff.mpr hshort]

theorem pieces_cases (bytes : Octets) :
    bytes = [] ∧ pieces bytes = [] ∨
      ∃ piece rest, Cuts bytes piece rest ∧ pieces bytes = piece :: pieces rest := by
  by_cases hnil : bytes = []
  · exact .inl ⟨hnil, hnil ▸ pieces_nil⟩
  · obtain ⟨piece, rest, hcuts⟩ := exists_cuts hnil
    exact .inr ⟨piece, rest, hcuts, pieces_of_cuts hcuts⟩

/-- The pieces of a stream spell the stream. -/
theorem flatMap_pieces (bytes : Octets) : (pieces bytes).flatMap (·.bytes) = bytes := by
  induction hn : bytes.length using Nat.strongRecOn generalizing bytes with
  | ind n ih =>
      subst hn
      rcases pieces_cases bytes with ⟨rfl, hpieces⟩ | ⟨piece, rest, hcuts, hpieces⟩
      · rw [hpieces]
        rfl
      · have hlt : rest.length < bytes.length := by
          rw [hcuts.eq_append, List.length_append]
          exact Nat.lt_add_of_pos_left (List.length_pos_iff.mpr hcuts.bytes_ne_nil)
        rw [hpieces, List.flatMap_cons, ih _ hlt rest rfl]
        exact hcuts.eq_append.symm

/-- What is behind some of the pieces of a stream is cut into the other ones. -/
theorem exists_drop_pieces (bytes : Octets) (count : Nat) :
    ∃ rest, (pieces bytes).drop count = pieces rest := by
  induction count generalizing bytes with
  | zero => exact ⟨bytes, rfl⟩
  | succ count ih =>
      rcases pieces_cases bytes with ⟨_, hpieces⟩ | ⟨piece, rest, _, hpieces⟩
      · exact ⟨[], by rw [hpieces, pieces_nil, List.drop_nil]⟩
      · rw [hpieces, List.drop_succ_cons]
        exact ih rest

/-- What is left behind some pieces is a stream by itself, so the next piece is cut from it. -/
theorem cuts_getElem (bytes : Octets) {k : Nat} (hk : k < (pieces bytes).length) :
    Cuts (((pieces bytes).drop k).flatMap (·.bytes)) (pieces bytes)[k]
      (((pieces bytes).drop (k + 1)).flatMap (·.bytes)) := by
  obtain ⟨rest, hrest⟩ := exists_drop_pieces bytes k
  rw [List.drop_eq_getElem_cons hk] at hrest
  rcases pieces_cases rest with ⟨_, hnil⟩ | ⟨piece, behind, hcuts, hcons⟩
  · rw [hnil] at hrest
    cases hrest
  · rw [hcons, List.cons.injEq] at hrest
    rw [List.drop_eq_getElem_cons hk, hrest.1, hrest.2, ← hcons, flatMap_pieces, flatMap_pieces]
    exact hcuts

/-- There are not more pieces than bytes. -/
theorem length_pieces_le (bytes : Octets) : (pieces bytes).length ≤ bytes.length := by
  induction hn : bytes.length using Nat.strongRecOn generalizing bytes with
  | ind n ih =>
      subst hn
      rcases pieces_cases bytes with ⟨rfl, hpieces⟩ | ⟨piece, rest, hcuts, hpieces⟩
      · rw [hpieces]
        exact Nat.le_refl _
      · have hpos := List.length_pos_iff.mpr hcuts.bytes_ne_nil
        have hlength := congrArg List.length hcuts.eq_append
        rw [List.length_append] at hlength
        have hrest := ih rest.length (by omega) rest rfl
        rw [hpieces, List.length_cons]
        omega

/-! ## Calls -/

/-- What a call answers that takes a piece, behind some number of values. -/
def Piece.answer (codec : Codec α) (framesRead : Nat) : Piece → Except Error (Option α)
  | .payload _ bytes => ((codec.decode bytes).map some).mapError .xdr
  | .oversized header => .error (.frameSize (sizeOf header))
  | .shortPayload _ _ => .error .shortFrame
  | .shortHeader _ => .error (.frameHeader framesRead)

theorem Piece.answer_ne_end (codec : Codec α) (framesRead : Nat) (piece : Piece) :
    piece.answer codec framesRead ≠ .ok none := by
  cases piece with
  | payload header bytes =>
      rw [answer]
      cases codec.decode bytes with
      | ok value => nofun
      | error fault => nofun
  | oversized header => nofun
  | shortPayload header bytes => nofun
  | shortHeader bytes => nofun

namespace Reader

variable {reader : Reader}

/-- The bytes that no call has taken. -/
def left (reader : Reader) : Octets :=
  reader.pieces.flatMap (·.bytes)

theorem pieces_next (codec : Codec α) (reader : Reader) :
    (reader.next codec).2.pieces = reader.pieces.tail := by
  obtain ⟨pieces, framesRead⟩ := reader
  cases pieces with
  | nil => rfl
  | cons piece pieces =>
      cases piece with
      | payload header bytes =>
          simp only [next]
          split
          · rfl
          · rfl
      | oversized header => rfl
      | shortPayload header bytes => rfl
      | shortHeader bytes => rfl

theorem answer_next (codec : Codec α) {piece : Piece} (h : reader.pieces.head? = some piece) :
    (reader.next codec).1 = piece.answer codec reader.framesRead := by
  obtain ⟨pieces, framesRead⟩ := reader
  cases pieces with
  | nil => cases h
  | cons first pieces =>
      cases h
      cases piece with
      | payload header bytes =>
          simp only [next, Piece.answer]
          split
          · next hdecode =>
              rw [hdecode]
              rfl
          · next hdecode =>
              rw [hdecode]
              rfl
      | oversized header => rfl
      | shortPayload header bytes => rfl
      | shortHeader bytes => rfl

theorem next_of_end (codec : Codec α) (h : reader.pieces = []) :
    (reader.next codec).1 = .ok none := by
  rw [next, h]

theorem pieces_after (codec : Codec α) (calls : Nat) (reader : Reader) :
    (reader.after codec calls).pieces = reader.pieces.drop calls := by
  induction calls generalizing reader with
  | zero => rfl
  | succ calls ih => rw [after, ih, pieces_next, List.drop_tail]

/-- What a call answers behind the values of a stream. -/
def endAnswer : Option Error → Except Error (Option α)
  | none => .ok none
  | some error => .error error

/-- The calls that answer a value or the first error come before those that answer the end. -/
theorem length_answers_le {answer : Nat → Except Error (Option α)} {bound : Nat} {read : List α}
    {ending : Option Error} (hend : ∀ k, bound ≤ k → answer k = .ok none)
    (hread : ∀ k value, read[k]? = some value → answer k = .ok (some value))
    (hending : answer read.length = endAnswer ending) :
    read.length + ending.toList.length ≤ bound := by
  have hvalues : read.length ≤ bound := by
    refine Nat.le_of_not_lt fun hlt => ?_
    have hvalue := hread bound _ (List.getElem?_eq_getElem hlt)
    cases hvalue.symm.trans (hend bound (Nat.le_refl bound))
  cases ending with
  | none => exact hvalues
  | some error =>
      have hne : read.length ≠ bound := by
        intro heq
        cases hending.symm.trans (hend read.length (Nat.le_of_eq heq.symm))
      exact Nat.lt_of_le_of_ne hvalues hne

/-- The values of a stream are what the calls answer, up to the end or the first error. -/
theorem exists_values_eq (codec : Codec α) (reader : Reader) :
    ∃ (read : List α) (ending : Option Error),
      (Stream.Reader.frames reader).values codec = read.map .ok ++ ending.toList.map .error ∧
      (∀ k value, read[k]? = some value →
        ((reader.after codec k).next codec).1 = .ok (some value)) ∧
      ((reader.after codec read.length).next codec).1 = endAnswer ending := by
  induction hn : reader.pieces.length generalizing reader with
  | zero =>
      have hnext := next_of_end codec (List.length_eq_zero_iff.mp hn)
      refine ⟨[], none, Stream.Reader.values_of_end hnext, ?_, hnext⟩
      intro k value hvalue
      cases hvalue
  | succ n ih =>
      cases hnext : (reader.next codec).1 with
      | error error =>
          refine ⟨[], some error, Stream.Reader.values_of_error hnext, ?_, hnext⟩
          intro k value hvalue
          cases hvalue
      | ok found =>
          cases found with
          | none =>
              refine ⟨[], none, Stream.Reader.values_of_end hnext, ?_, hnext⟩
              intro k value hvalue
              cases hvalue
          | some first =>
              have hlength : (reader.next codec).2.pieces.length = n := by
                rw [pieces_next, List.length_tail, hn, Nat.add_sub_cancel]
              obtain ⟨read, ending, hvalues, hread, hending⟩ := ih _ hlength
              refine ⟨first :: read, ending, ?_, ?_, hending⟩
              · have hfirst : ((Stream.Reader.frames reader).next codec).1 = .ok (some first) :=
                  hnext
                rw [Stream.Reader.values_of_value hfirst, List.map_cons, List.cons_append]
                exact congrArg (.ok first :: ·) hvalues
              · intro k value hvalue
                cases k with
                | zero =>
                    cases hvalue
                    exact hnext
                | succ k => exact hread k value hvalue

end Reader

/-- Whatever a stream holds, its calls take the pieces of the stream one after the other, which
are not empty, spell the stream, and are as `Cuts` says; each is answered for by itself. Behind
the last piece, and so behind as many calls as there are bytes, every call answers the end. The
values of the stream are what the calls answer up to the end or the first error, which is the
last of them. -/
theorem calls_take_consecutive_pieces (codec : Codec α) (bytes : Octets) :
    let reader (calls : Nat) := (Reader.start bytes).after codec calls
    let answer (calls : Nat) := ((reader calls).next codec).1
    (∀ k, ((pieces bytes).take k).flatMap (·.bytes) ++ (reader k).left = bytes) ∧
    (∀ k piece, (pieces bytes)[k]? = some piece →
      Cuts (reader k).left piece (reader (k + 1)).left ∧
      (reader k).left = piece.bytes ++ (reader (k + 1)).left ∧ piece.bytes ≠ [] ∧
      answer k = piece.answer codec (reader k).framesRead ∧ answer k ≠ .ok none) ∧
    (∀ k, (pieces bytes).length ≤ k → (reader k).left = [] ∧ answer k = .ok none) ∧
    (pieces bytes).length ≤ bytes.length ∧
    ∃ (read : List α) (ending : Option Error),
      (Stream.Reader.start bytes .frames).values codec =
        read.map .ok ++ ending.toList.map .error ∧
      (∀ k value, read[k]? = some value → answer k = .ok (some value)) ∧
      answer read.length = Reader.endAnswer ending ∧
      read.length + ending.toList.length ≤ bytes.length := by
  intro reader answer
  have hpieces (k : Nat) : (reader k).pieces = (pieces bytes).drop k :=
    Reader.pieces_after codec k (Reader.start bytes)
  have hleft (k : Nat) : (reader k).left = ((pieces bytes).drop k).flatMap (·.bytes) := by
    rw [Reader.left, hpieces]
  have hend (k : Nat) (hk : (pieces bytes).length ≤ k) :
      (reader k).left = [] ∧ answer k = .ok none := by
    have hnil : (pieces bytes).drop k = [] := List.drop_eq_nil_of_le hk
    exact ⟨by rw [hleft, hnil]; rfl, Reader.next_of_end codec ((hpieces k).trans hnil)⟩
  refine ⟨?_, ?_, hend, length_pieces_le bytes, ?_⟩
  · intro k
    rw [hleft, ← List.flatMap_append, List.take_append_drop, flatMap_pieces]
  · intro k piece hk
    obtain ⟨hlt, rfl⟩ := List.getElem?_eq_some_iff.mp hk
    have hcuts : Cuts (reader k).left (pieces bytes)[k] (reader (k + 1)).left := by
      rw [hleft, hleft]
      exact cuts_getElem bytes hlt
    have hanswer : answer k = (pieces bytes)[k].answer codec (reader k).framesRead := by
      apply Reader.answer_next
      rw [hpieces, List.drop_eq_getElem_cons hlt]
      rfl
    exact ⟨hcuts, hcuts.eq_append, hcuts.bytes_ne_nil, hanswer,
      hanswer ▸ Piece.answer_ne_end codec _ _⟩
  · obtain ⟨read, ending, hvalues, hread, hending⟩ :=
      Reader.exists_values_eq codec (Reader.start bytes)
    have hcount : read.length + ending.toList.length ≤ (pieces bytes).length :=
      Reader.length_answers_le (fun k hk => (hend k hk).2) hread hending
    exact ⟨read, ending, hvalues, hread, hending, hcount.trans (length_pieces_le bytes)⟩

/-- A number, a header that announces too much and a payload that ends too early are taken by
three calls, and the fourth call answers the end. -/
theorem damaged_stream_taken_by_three_calls :
    let bytes : Octets := [0, 0, 0, 4, 0, 0, 0, 7, 255, 255, 255, 255, 128, 0, 0, 2, 5]
    let reader (calls : Nat) := (Reader.start bytes).after uint32 calls
    ((reader 0).next uint32).1 = .ok (some 7) ∧
      (reader 1).left = [255, 255, 255, 255, 128, 0, 0, 2, 5] ∧
      ((reader 1).next uint32).1 = .error (.frameSize 0x7FFFFFFF) ∧
      (reader 2).left = [128, 0, 0, 2, 5] ∧
      ((reader 2).next uint32).1 = .error .shortFrame ∧
      (reader 3).left = [] ∧ ((reader 3).next uint32).1 = .ok none := by
  intro bytes reader
  have hpieces : pieces bytes = [.payload ⟨[0, 0, 0, 4], rfl⟩ [0, 0, 0, 7],
      .oversized ⟨[255, 255, 255, 255], rfl⟩, .shortPayload ⟨[128, 0, 0, 2], rfl⟩ [5]] := by
    let seven : FixedBytes 4 := ⟨[0, 0, 0, 4], rfl⟩
    let above : FixedBytes 4 := ⟨[255, 255, 255, 255], rfl⟩
    let short : FixedBytes 4 := ⟨[128, 0, 0, 2], rfl⟩
    have hshort : Cuts (short.bytes ++ [5]) (.shortPayload short [5]) [] :=
      .shortPayload (by decide) (by decide)
    have habove : Cuts (above.bytes ++ (short.bytes ++ [5])) (.oversized above)
        (short.bytes ++ [5]) := .oversized (by decide)
    have hseven : Cuts (seven.bytes ++ ([0, 0, 0, 7] ++ (above.bytes ++ (short.bytes ++ [5]))))
        (.payload seven [0, 0, 0, 7]) (above.bytes ++ (short.bytes ++ [5])) :=
      .payload (by decide) (by decide)
    rw [← pieces_nil, ← pieces_of_cuts hshort, ← pieces_of_cuts habove]
    exact pieces_of_cuts hseven
  obtain ⟨-, htaken, hend, -⟩ := calls_take_consecutive_pieces uint32 bytes
  rw [hpieces] at htaken hend
  obtain ⟨-, hfirst, -, hseven, -⟩ := htaken 0 _ rfl
  obtain ⟨-, hsecond, -, habove, -⟩ := htaken 1 _ rfl
  obtain ⟨-, hthird, -, hshort, -⟩ := htaken 2 _ rfl
  obtain ⟨hleft, hnone⟩ := hend 3 (Nat.le_refl 3)
  rw [show (reader 3).left = [] from hleft] at hthird
  rw [show (reader 2).left = _ from hthird] at hsecond
  exact ⟨hseven, hsecond, habove, hthird, hshort, hleft, hnone⟩

end Frames

end LedgerExport
