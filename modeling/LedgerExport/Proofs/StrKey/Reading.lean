import LedgerExport.Proofs.StrKey

/-!
# Accounts are read from their texts alone

Reading a key checks the digits, the version in front and the checksum behind, and
so accepts nothing but what is written. An account is read from its text and from
no other one. This text has fifty-six characters of the base32 alphabet and starts
with the letter of accounts, so one in lower case, with padding, of another length
or of another kind is refused.
-/

namespace LedgerExport

namespace StrKey

/-- A text is decoded as a key of a kind exactly if it is the text of that key. -/
theorem decode?_eq_some_iff {kind : Kind} {text : List Char} {key : Octets} :
    decode? kind text = some key ↔ (encode kind key).toList = text := by
  constructor
  · intro h
    obtain ⟨bytes, hbytes, h⟩ := Option.bind_eq_some_iff.mp h
    dsimp only at h
    split at h
    · next hchecked =>
        cases h
        rw [encode, String.toList_ofList, ← hchecked]
        exact Base32.decode?_eq_some_iff.mp hbytes
    · cases h
  · rintro rfl
    exact decode?_encode kind key

/-- A version, a key and two bytes are taken for a key of a kind exactly if the version is that of
the kind and the two bytes are the checksum. -/
theorem decode?_encode_parts_iff {kind : Kind} {version low high : UInt8} {body key : Octets} :
    decode? kind (Base32.encode (version :: body ++ [low, high])) = some key ↔
      version = kind.version ∧ body = key ∧ [low, high] = Crc16.littleEndian (version :: body) := by
  rw [decode?_eq_some_iff, encode, String.toList_ofList, Base32.encode_injective.eq_iff]
  constructor
  · intro h
    obtain ⟨hbody, hchecksum⟩ := List.append_inj' h rfl
    obtain ⟨rfl, rfl⟩ := List.cons.inj hbody
    exact ⟨rfl, rfl, hchecksum.symm⟩
  · rintro ⟨rfl, rfl, hchecksum⟩
    rw [hchecksum]
    rfl

/-- The letter in front of a text. -/
def Kind.letter : Kind → Char
  | .account => 'G'
  | .muxedAccount => 'M'
  | .contract => 'C'
  | .preAuthTx => 'T'
  | .hashX => 'X'
  | .signedPayload => 'P'

/-- A text starts with the letter of its kind. -/
theorem head?_encode (kind : Kind) (key : Octets) :
    (encode kind key).toList.head? = some kind.letter := by
  rw [encode, String.toList_ofList]
  cases kind <;> rfl

theorem encode_subset_alphabet (kind : Kind) (key : Octets) :
    (encode kind key).toList ⊆ Base32.alphabet := by
  rw [encode, String.toList_ofList]
  exact Base32.encode_subset_alphabet _

end StrKey

namespace Protocol.AccountId

variable {text : String} {id : AccountId} {error : Error}

theorem parse_eq_ok_iff : parse text = .ok id ↔ text = id.text := by
  constructor
  · intro h
    unfold parse at h
    split at h
    · next key hread =>
        cases h
        obtain ⟨bytes, hbytes, hkey⟩ := Option.bind_eq_some_iff.mp hread
        obtain rfl := FixedBytes.ofList?_eq_some_iff.mp hkey
        exact (String.toList_inj.mp (StrKey.decode?_eq_some_iff.mp hbytes)).symm
    · cases h
  · rintro rfl
    exact parse_text id

/-- A text that is that of no account is refused, and there is no other error. -/
theorem parse_eq_error_iff :
    parse text = .error error ↔ error = .accountId text ∧ ∀ id : AccountId, text ≠ id.text := by
  simp only [ne_eq, ← parse_eq_ok_iff]
  unfold parse
  split
  · simp
  · simp [eq_comm]

theorem length_text (id : AccountId) : id.text.length = 56 := by
  have hbytes : (StrKey.withChecksum .account id.key.bytes).length = 35 := by
    rw [StrKey.withChecksum, List.length_append, List.length_cons, id.key.length_bytes]
    rfl
  rw [text, keyText, StrKey.encode, String.length_ofList, Base32.length_encode, hbytes]

/-- The base32 digits of a version, a key and two bytes are read as an account exactly if the version
is that of accounts and the two bytes are the checksum. -/
theorem parse_parts_eq_ok_iff {version low high : UInt8} {key : Octets} :
    parse (String.ofList (Base32.encode (version :: key ++ [low, high]))) = .ok id ↔
      version = StrKey.Kind.account.version ∧ key = id.key.bytes ∧
        [low, high] = Crc16.littleEndian (version :: key) := by
  rw [parse_eq_ok_iff, ← StrKey.decode?_encode_parts_iff, StrKey.decode?_eq_some_iff,
    ← String.toList_inj, String.toList_ofList, eq_comm, text, keyText]

/-- An account is read from its text and from no other one, which is invalid data. The text of an
account has fifty-six characters of the alphabet, a `G` in front, and of the texts that spell a
version, a key and a checksum it is the one with the right version and the right checksum. -/
theorem account_texts_read_exactly :
    (∀ text id, parse text = .ok id ↔ text = id.text) ∧
    (∀ text error, parse text = .error error ↔
      error = .accountId text ∧ error.category = .invalidData ∧
        ∀ id : AccountId, text ≠ id.text) ∧
    (∀ id : AccountId, id.text.length = 56 ∧ id.text.toList.head? = some 'G' ∧
      id.text.toList ⊆ Base32.alphabet) ∧
    (∀ version key low high id,
      parse (String.ofList (Base32.encode (version :: key ++ [low, high]))) = .ok id ↔
        version = StrKey.Kind.account.version ∧ key = id.key.bytes ∧
          [low, high] = Crc16.littleEndian (version :: key)) := by
  refine ⟨fun _ _ => parse_eq_ok_iff, fun text error => ?_, fun id => ?_,
    fun _ _ _ _ _ => parse_parts_eq_ok_iff⟩
  · rw [parse_eq_error_iff]
    constructor
    · rintro ⟨rfl, hnone⟩
      exact ⟨rfl, rfl, hnone⟩
    · rintro ⟨herror, -, hnone⟩
      exact ⟨herror, hnone⟩
  · exact ⟨id.length_text, StrKey.head?_encode _ _, StrKey.encode_subset_alphabet _ _⟩

example : AccountId.text ⟨.zero 32⟩ =
    "GAAAAAAAAAAAAAAAAAAAAAAAAAAAAAAAAAAAAAAAAAAAAAAAAAAAAWHF" := by
  decide +kernel

end Protocol.AccountId

end LedgerExport
