import LedgerExport.Proofs.Bytes.RoundTrip
import LedgerExport.Proofs.Text.Base32
import LedgerExport.StrKey
import Mathlib.Data.List.Basic

/-!
# Keys are known by their texts

The text of a key determines its kind and its bytes, because its base32 digits do
and each kind has a version of its own, and the key is read back from it. Keys that
are written in hexadecimal digits are determined by these.
-/

namespace LedgerExport

namespace StrKey

theorem Kind.version_injective : Function.Injective Kind.version := by
  intro kind kind' h
  cases kind <;> cases kind' <;> first | rfl | exact absurd h (by decide)

theorem withChecksum_inj {kind kind' : Kind} {key key' : Octets} :
    withChecksum kind key = withChecksum kind' key' ↔ kind = kind' ∧ key = key' := by
  constructor
  · intro h
    -- The checksum is two bytes whatever it is, so what stands before it is the same.
    obtain ⟨hbody, -⟩ := List.append_inj' h rfl
    obtain ⟨hversion, hkey⟩ := List.cons.inj hbody
    exact ⟨Kind.version_injective hversion, hkey⟩
  · rintro ⟨rfl, rfl⟩
    rfl

/-- A text determines the kind and the bytes of its key. -/
theorem encode_inj {kind kind' : Kind} {key key' : Octets} :
    encode kind key = encode kind' key' ↔ kind = kind' ∧ key = key' := by
  rw [encode, encode, String.ofList_inj, Base32.encode_injective.eq_iff, withChecksum_inj]

/-- A key is read back from its text. -/
theorem decode?_encode (kind : Kind) (key : Octets) :
    decode? kind (encode kind key).toList = some key := by
  have hlength : (withChecksum kind key).length - 3 = key.length := by
    rw [withChecksum, List.length_append, List.length_cons]
    exact Nat.add_sub_cancel key.length 3
  have hkey : ((withChecksum kind key).drop 1).take ((withChecksum kind key).length - 3) = key := by
    rw [hlength]
    exact List.take_left
  rw [decode?, encode, String.toList_ofList, Base32.decode?_encode, Option.bind_eq_bind,
    Option.bind_some, hkey, if_pos rfl]

end StrKey

namespace Protocol

theorem keyText_injective : Function.Injective keyText := by
  intro key key' h
  exact FixedBytes.ext (StrKey.encode_inj.mp h).2

theorem AccountId.text_injective : Function.Injective AccountId.text := by
  rintro ⟨key⟩ ⟨key'⟩ h
  exact congrArg AccountId.mk (keyText_injective h)

/-- An account is read back from its text. -/
theorem AccountId.parse_text (id : AccountId) : parse id.text = .ok id := by
  have hread : (StrKey.decode? .account id.text.toList >>= FixedBytes.ofList? 32) = some id.key := by
    rw [text, keyText, StrKey.decode?_encode, Option.bind_eq_bind, Option.bind_some,
      FixedBytes.ofList?_bytes]
  rw [parse, hread]

theorem ContractId.text_injective : Function.Injective ContractId.text := by
  rintro ⟨hash⟩ ⟨hash'⟩ h
  exact congrArg ContractId.mk (FixedBytes.ext (StrKey.encode_inj.mp h).2)

theorem PoolId.text_injective : Function.Injective PoolId.text := by
  rintro ⟨hash⟩ ⟨hash'⟩ h
  exact congrArg PoolId.mk (FixedBytes.ext (Hex.text_injective h))

theorem BalanceId.text_injective : Function.Injective BalanceId.text := by
  rintro ⟨hash⟩ ⟨hash'⟩ h
  exact congrArg BalanceId.mk (FixedBytes.ext (Hex.text_injective h))

theorem MuxedKey.text_injective : Function.Injective MuxedKey.text := by
  rintro ⟨id, key⟩ ⟨id', key'⟩ h
  have hbytes := (StrKey.encode_inj.mp h).2
  obtain ⟨hkey, hid⟩ := List.append_inj hbytes (key.length_bytes.trans key'.length_bytes.symm)
  have hread (n : UInt64) : BigEndian.read (BigEndian.write 8 n.toNat []) = n.toNat := by
    rw [BigEndian.read_write]
    exact Nat.mod_eq_of_lt n.toNat_lt
  have hid := congrArg BigEndian.read hid
  rw [hread, hread] at hid
  exact congrArg₂ MuxedKey.mk (UInt64.toNat_inj.mp hid) (FixedBytes.ext hkey)

/-- The kinds of the two texts differ, so an account with a number is not taken for another. -/
theorem MuxedAccount.text_injective : Function.Injective MuxedAccount.text := by
  intro account account' h
  cases account with
  | plain key =>
      cases account' with
      | plain key' => rw [keyText_injective h]
      | muxed key' => cases (StrKey.encode_inj.mp h).1
  | muxed key =>
      cases account' with
      | plain key' => cases (StrKey.encode_inj.mp h).1
      | muxed key' => rw [MuxedKey.text_injective h]

end Protocol

end LedgerExport
