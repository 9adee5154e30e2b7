import LedgerExport.Position.EventId
import LedgerExport.Proofs.Text.Ascii
import LedgerExport.Proofs.Text.Decimal

/-!
# Identifiers and their texts

Identifiers are ordered by the place of their operation and then by their order
in it, and so are their texts, character by character and byte by byte. An
identifier is read back from its text, and from no other text without a plus sign.
-/

namespace LedgerExport

namespace EventId

theorem lt_irrefl (a : EventId) : ¬a < a := by
  rintro (h | ⟨_, h⟩)
  · exact Nat.lt_irrefl _ h
  · exact UInt32.lt_irrefl _ h

theorem lt_trichotomy (a b : EventId) : a < b ∨ a = b ∨ b < a := by
  obtain ⟨⟨place, hplace⟩, order⟩ := a
  obtain ⟨⟨place', hplace'⟩, order'⟩ := b
  rcases Nat.lt_trichotomy place place' with hlt | rfl | hgt
  · exact .inl (.inl hlt)
  · rcases Nat.lt_trichotomy order.toNat order'.toNat with hlt | heq | hgt
    · exact .inl (.inr ⟨rfl, UInt32.lt_iff_toNat_lt.mpr hlt⟩)
    · exact .inr (.inl (by rw [UInt32.toNat_inj.mp heq]))
    · exact .inr (.inr (.inr ⟨rfl, UInt32.lt_iff_toNat_lt.mpr hgt⟩))
  · exact .inr (.inr (.inl hgt))

theorem characters_lt_of_lt {a b : EventId} (h : a < b) : a.characters < b.characters := by
  rw [characters, characters]
  rcases h with h | ⟨hplace, horder⟩
  · exact Decimal.fixed_append_lt h (Nat.lt_trans b.operation.raw_lt (by decide)) _ _
  · rw [hplace]
    apply List.append_left_lt
    rw [List.cons_lt_cons_iff]
    refine .inr ⟨rfl, ?_⟩
    have hlt := Decimal.fixed_append_lt (UInt32.lt_iff_toNat_lt.mp horder)
      (Nat.lt_trans b.order.toNat_lt (by decide : 2 ^ 32 < 10 ^ 10)) [] []
    rwa [List.append_nil, List.append_nil] at hlt

/-- Texts of identifiers are ordered as the identifiers are. -/
theorem text_lt_text {a b : EventId} (h : a < b) : a.text < b.text := by
  rw [text, text, String.lt_iff, String.toList_ofList, String.toList_ofList]
  exact characters_lt_of_lt h

theorem characters_lt_characters_iff {a b : EventId} :
    a.characters < b.characters ↔ a < b := by
  refine ⟨fun h => ?_, characters_lt_of_lt⟩
  rcases lt_trichotomy a b with hlt | rfl | hgt
  · exact hlt
  · exact absurd h (List.lt_irrefl _)
  · exact absurd h (List.lt_asymm (characters_lt_of_lt hgt))

theorem pairwise_text_lt {ids : List EventId} (h : ids.Pairwise (· < ·)) :
    (ids.map (·.text)).Pairwise (· < ·) := by
  rw [List.pairwise_map]
  exact h.imp text_lt_text

/-- Identifiers that increase are all different. -/
theorem nodup_of_pairwise_lt {ids : List EventId} (h : ids.Pairwise (· < ·)) : ids.Nodup := by
  refine h.imp ?_
  rintro a _ hlt rfl
  exact lt_irrefl a hlt

/-! ## The bytes of a text -/

theorem digit_or_hyphen_of_mem_characters {id : EventId} {c : Char} (h : c ∈ id.characters) :
    48 ≤ c.toNat ∧ c.toNat ≤ 57 ∨ c = '-' := by
  rw [characters, List.mem_append, List.mem_cons] at h
  rcases h with h | h | h
  · exact .inl (Decimal.digit_bounds_of_mem_fixed h)
  · exact .inr h
  · exact .inl (Decimal.digit_bounds_of_mem_fixed h)

theorem toNat_lt_of_mem_characters {id : EventId} {c : Char} (h : c ∈ id.characters) :
    c.toNat < 128 := by
  obtain hdigit | rfl := digit_or_hyphen_of_mem_characters h
  · omega
  · decide

theorem bytes_text_lt_bytes_text_iff {a b : EventId} :
    Utf8.bytes a.text < Utf8.bytes b.text ↔ a < b := by
  rw [text, text, Utf8.bytes, Utf8.bytes, String.toList_ofList, String.toList_ofList,
    Utf8.encode_lt_encode_iff (fun _ => toNat_lt_of_mem_characters)
      (fun _ => toNat_lt_of_mem_characters), characters_lt_characters_iff]

/-! ## Reading -/

/-- The numerals of an identifier with a hyphen between them, either of them with a plus sign in
the place of a zero in front or without. -/
def Spells (text : String) (id : EventId) : Prop :=
  ∃ place order, text = String.ofList (place ++ '-' :: order) ∧
    Decimal.UpToPlus place (Decimal.fixed 19 id.operation.raw) ∧
    Decimal.UpToPlus order (Decimal.fixed 10 id.order.toNat)

section Numerals

variable {text : List Char} {digits n : Nat}

theorem toNat_lt_of_upToPlus (h : Decimal.UpToPlus text (Decimal.fixed digits n)) {c : Char}
    (hc : c ∈ text) : c.toNat < 128 := by
  obtain hdigit | rfl := h.mem_or_eq_plus hc
  · exact Decimal.toNat_lt_of_mem_fixed hdigit
  · decide

theorem hyphen_notMem_of_upToPlus (h : Decimal.UpToPlus text (Decimal.fixed digits n)) :
    '-' ∉ text := by
  intro hc
  obtain hdigit | hplus := h.mem_or_eq_plus hc
  · exact absurd (Decimal.digit_bounds_of_mem_fixed hdigit) (by decide)
  · exact absurd hplus (by decide)

/-- The width of a text that is a numeral up to a plus sign is that of the numeral. -/
theorem width_of_upToPlus (h : Decimal.UpToPlus text (Decimal.fixed digits n)) :
    width text = digits := by
  rw [width, Utf8.length_encode_of_lt fun _ => toNat_lt_of_upToPlus h, h.length_eq,
    Decimal.length_fixed]

theorem numeral_eq_some_iff (hdigits : 2 ≤ digits) :
    (if width text = digits then Decimal.unsigned? text else none) = some n ↔
      n < 10 ^ digits ∧ Decimal.UpToPlus text (Decimal.fixed digits n) := by
  constructor
  · intro h
    split at h
    · next hwidth =>
        -- The width is counted in bytes, and the number read shows that these are the characters.
        have hread := Decimal.upToPlus_of_unsigned? h
        rwa [← hwidth, width_of_upToPlus hread.2]
    · cases h
  · rintro ⟨hn, htext⟩
    rw [if_pos (width_of_upToPlus htext), Decimal.unsigned?_of_upToPlus hdigits hn htext]

end Numerals

theorem ofNumerals?_eq_bind (place order : List Char) :
    ofNumerals? place order =
      (if width place = 19 then Decimal.unsigned? place else none).bind fun n =>
      (if width order = 10 then Decimal.unsigned? order else none).bind fun m =>
        if h : n < 0x8000000000000000 then
          if m < 0x100000000 then some ⟨⟨n, h⟩, UInt32.ofNat m⟩ else none
        else none := by
  by_cases hplace : width place = 19 <;> by_cases horder : width order = 10 <;>
    simp only [ofNumerals?, hplace, horder, if_true, if_false] <;> rfl

theorem ofNumerals?_eq_some_iff {place order : List Char} {id : EventId} :
    ofNumerals? place order = some id ↔
      Decimal.UpToPlus place (Decimal.fixed 19 id.operation.raw) ∧
        Decimal.UpToPlus order (Decimal.fixed 10 id.order.toNat) := by
  simp only [ofNumerals?_eq_bind, Option.bind_eq_some_iff,
    numeral_eq_some_iff (show 2 ≤ 19 by decide), numeral_eq_some_iff (show 2 ≤ 10 by decide)]
  constructor
  · rintro ⟨n, ⟨-, hplace⟩, m, ⟨-, horder⟩, h⟩
    split at h
    · split at h
      · next hm =>
          cases h
          rw [UInt32.toNat_ofNat_of_lt' hm]
          exact ⟨hplace, horder⟩
      · cases h
    · cases h
  · rintro ⟨hplace, horder⟩
    refine ⟨_, ⟨Nat.lt_trans id.operation.raw_lt (by decide), hplace⟩,
      _, ⟨Nat.lt_trans id.order.toNat_lt (by decide), horder⟩, ?_⟩
    rw [dif_pos id.operation.raw_lt, if_pos id.order.toNat_lt, UInt32.ofNat_toNat]

/-- What is read as an identifier is what spells it. -/
theorem parse_eq_ok_iff {text : String} {id : EventId} :
    parse text = .ok id ↔ Spells text id := by
  constructor
  · intro h
    cases hcut : text.toList.dropWhile (· != '-') with
    | nil =>
        simp only [parse, hcut] at h
        cases h
    | cons c order =>
        simp only [parse, hcut] at h
        obtain ⟨htext, -⟩ := cut_of_dropWhile hcut
        split at h
        · next hfound =>
            cases h
            refine ⟨_, _, ?_, ofNumerals?_eq_some_iff.mp hfound⟩
            rw [← htext, String.ofList_toList]
        · cases h
  · rintro ⟨place, order, rfl, hnumerals⟩
    have hmark := hyphen_notMem_of_upToPlus hnumerals.1
    simp only [parse, String.toList_ofList, takeWhile_of_cut hmark, dropWhile_of_cut hmark,
      ofNumerals?_eq_some_iff.mpr hnumerals]

theorem exists_parse_eq_ok_or (text : String) :
    (∃ id, parse text = .ok id) ∨ parse text = .error (.eventId text) := by
  cases hcut : text.toList.dropWhile (· != '-') with
  | nil => exact .inr (by simp only [parse, hcut])
  | cons c order =>
      cases hfound : ofNumerals? (text.toList.takeWhile (· != '-')) order with
      | none => exact .inr (by simp only [parse, hcut, hfound])
      | some id => exact .inl ⟨id, by simp only [parse, hcut, hfound]⟩

/-- A text that spells no identifier is malformed, and there is no other error. -/
theorem parse_eq_error_iff {text : String} {error : Error} :
    parse text = .error error ↔ error = .eventId text ∧ ∀ id, ¬Spells text id := by
  simp only [← parse_eq_ok_iff]
  obtain ⟨id, hok⟩ | hmalformed := exists_parse_eq_ok_or text
  · rw [hok]
    simp
  · rw [hmalformed]
    simp [eq_comm]

theorem spells_text (id : EventId) : Spells id.text id :=
  ⟨_, _, rfl, .inl rfl, .inl rfl⟩

/-- An identifier is read back from its text. -/
theorem parse_text (id : EventId) : parse id.text = .ok id :=
  parse_eq_ok_iff.mpr id.spells_text

theorem plus_notMem_text (id : EventId) : '+' ∉ id.text.toList := by
  intro h
  rw [text, String.toList_ofList] at h
  exact absurd (digit_or_hyphen_of_mem_characters h) (by decide)

/-- Without a plus sign an identifier is spelt by its text alone. -/
theorem eq_text_iff {text : String} {id : EventId} :
    text = id.text ↔ Spells text id ∧ '+' ∉ text.toList := by
  constructor
  · rintro rfl
    exact ⟨id.spells_text, id.plus_notMem_text⟩
  · rintro ⟨⟨place, order, rfl, hplace, horder⟩, hplus⟩
    rw [String.toList_ofList, List.mem_append, List.mem_cons] at hplus
    rw [hplace.eq_of_plus_notMem fun hmem => hplus (.inl hmem),
      horder.eq_of_plus_notMem fun hmem => hplus (.inr (.inr hmem))]
    rfl

/-- The text of an identifier is nineteen digits, a hyphen and ten digits, the identifier is read
back from it, and texts are ordered byte by byte as the identifiers are. -/
theorem texts_ordered_as_identifiers (a b : EventId) :
    (∃ place order : List Char, a.text = String.ofList (place ++ '-' :: order) ∧
      place.length = 19 ∧ order.length = 10 ∧ (place ++ order).all Char.isDigit = true) ∧
    parse a.text = .ok a ∧
    (a < b ↔ Utf8.bytes a.text < Utf8.bytes b.text) := by
  refine ⟨⟨_, _, rfl, Decimal.length_fixed _ _, Decimal.length_fixed _ _, ?_⟩, parse_text a,
    bytes_text_lt_bytes_text_iff.symm⟩
  rw [List.all_append, Bool.and_eq_true]
  exact ⟨Decimal.all_isDigit_fixed _ _, Decimal.all_isDigit_fixed _ _⟩

/-- A text is read as the identifier that it spells, and one that spells none is malformed. It is
the text of the identifier that it is read as exactly if no plus sign stands in it. -/
theorem texts_read_up_to_plus (text : String) :
    (∀ id, parse text = .ok id ↔ Spells text id) ∧
    (∀ error, parse text = .error error ↔ error = .eventId text ∧ ∀ id, ¬Spells text id) ∧
    (∀ id : EventId, text = id.text ↔ parse text = .ok id ∧ '+' ∉ text.toList) := by
  refine ⟨fun _ => parse_eq_ok_iff, fun _ => parse_eq_error_iff, fun id => ?_⟩
  rw [parse_eq_ok_iff]
  exact eq_text_iff

/-- A plus sign is read in the place of a zero in front, so a second text names an identifier. -/
theorem identifier_with_plus_read :
    let text := "+000000000000000042-0000000001"
    ∃ id : EventId, parse text = .ok id ∧ id.text ≠ text := by
  intro text
  refine ⟨⟨⟨42, by decide⟩, 1⟩, ?_, by decide⟩
  exact parse_eq_ok_iff.mpr ⟨_, _, rfl, .inr ⟨_, rfl, rfl⟩, .inl rfl⟩

end EventId

end LedgerExport
