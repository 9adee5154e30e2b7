import LedgerExport.Proofs.StrKey.Reading

/-!
# Which keys share a text

The texts of signers and of accounts tell them apart. So do those of addresses, but
for one pair of kinds: a claimable balance and a liquidity pool are both written as
the digits of their hash, and nothing says which of them it is the hash of. These
digits are never the text of a key, since no hexadecimal digit is an upper-case
letter and every such text starts with one.
-/

namespace LedgerExport

open Xdr (padding)

/-! ## Keys and digits -/

namespace Hex

/-- The digits that a text may have. -/
def alphabet : List Char :=
  "0123456789abcdef".toList

theorem digits_subset_alphabet (bytes : Octets) : digits bytes ⊆ alphabet := by
  have hdigit : ∀ n < 16, digit n ∈ alphabet := by decide +kernel
  intro c hc
  obtain ⟨b, -, hc⟩ := List.mem_flatMap.mp hc
  have hb : b.toNat < 256 := b.toNat_lt
  rw [List.mem_pair] at hc
  rcases hc with rfl | rfl
  · exact hdigit _ (by omega)
  · exact hdigit _ (by omega)

end Hex

namespace StrKey

theorem Kind.letter_notMem_alphabet (kind : Kind) : kind.letter ∉ Hex.alphabet := by
  cases kind <;> decide

/-- No digits of a byte string are the text of a key. -/
theorem encode_ne_hexText (kind : Kind) (key bytes : Octets) : encode kind key ≠ Hex.text bytes := by
  intro h
  have hletter : kind.letter ∈ (encode kind key).toList :=
    List.mem_of_mem_head? (head?_encode kind key)
  rw [h, Hex.text, String.toList_ofList] at hletter
  exact kind.letter_notMem_alphabet (Hex.digits_subset_alphabet bytes hletter)

end StrKey

namespace Protocol

/-! ## Signers -/

namespace SignedPayload

/-- The key, the number of bytes of the payload, the payload and zeros behind it. -/
theorem encode_eq (signer : SignedPayload) :
    layout.encode signer = signer.key.bytes ++ (BigEndian.write 4 signer.payload.length [] ++
      (signer.payload ++ List.replicate (padding signer.payload.length) 0)) := by
  show signer.key.bytes ++ BigEndian.write 4 signer.payload.length
    (signer.payload ++ (List.replicate (padding signer.payload.length) 0 ++ [])) = _
  rw [BigEndian.write_eq_append, List.append_nil]

/-- Lengths that agree up to a multiple of four and in their lowest bytes are the same. -/
theorem eq_of_padded_eq {m n : Nat} (hword : m % 256 ^ 4 = n % 256 ^ 4)
    (hpadded : m + padding m = n + padding n) : m = n := by
  unfold padding at hpadded
  omega

/-- The zeros behind a payload are not taken for a part of it, since its length stands in front. -/
theorem encode_injective : Function.Injective layout.encode := by
  intro signer signer' h
  rw [encode_eq, encode_eq] at h
  obtain ⟨hkey, h⟩ := List.append_inj h (signer.key.length_bytes.trans signer'.key.length_bytes.symm)
  have hwidth (n : Nat) : (BigEndian.write 4 n []).length = 4 := BigEndian.length_write 4 n []
  obtain ⟨hword, hpadded⟩ := List.append_inj h ((hwidth _).trans (hwidth _).symm)
  have hword := congrArg BigEndian.read hword
  have hlength := congrArg List.length hpadded
  rw [BigEndian.read_write, BigEndian.read_write] at hword
  rw [List.length_append, List.length_append, List.length_replicate, List.length_replicate]
    at hlength
  obtain ⟨hpayload, -⟩ := List.append_inj hpadded (eq_of_padded_eq hword hlength)
  obtain ⟨key, payload⟩ := signer
  obtain ⟨key', payload'⟩ := signer'
  exact congrArg₂ SignedPayload.mk (FixedBytes.ext hkey) hpayload

end SignedPayload

theorem SignerKey.text_injective : Function.Injective SignerKey.text := by
  intro key key' h
  cases key with
  | ed25519 key =>
      cases key' with
      | ed25519 key' => rw [keyText_injective h]
      | _ => cases (StrKey.encode_inj.mp h).1
  | preAuthTx hash =>
      cases key' with
      | preAuthTx hash' => rw [FixedBytes.ext (StrKey.encode_inj.mp h).2]
      | _ => cases (StrKey.encode_inj.mp h).1
  | hashX hash =>
      cases key' with
      | hashX hash' => rw [FixedBytes.ext (StrKey.encode_inj.mp h).2]
      | _ => cases (StrKey.encode_inj.mp h).1
  | signedPayload signer =>
      cases key' with
      | signedPayload signer' => rw [SignedPayload.encode_injective (StrKey.encode_inj.mp h).2]
      | _ => cases (StrKey.encode_inj.mp h).1

/-! ## Addresses -/

namespace ScAddress

/-- Two addresses of which one is a balance and the other a pool with the same hash. -/
def Namesakes (a b : ScAddress) : Prop :=
  ∃ hash, a = .claimableBalance ⟨hash⟩ ∧ b = .liquidityPool ⟨hash⟩ ∨
    a = .liquidityPool ⟨hash⟩ ∧ b = .claimableBalance ⟨hash⟩

theorem Namesakes.symm {a b : ScAddress} (h : Namesakes a b) : Namesakes b a := by
  obtain ⟨hash, ⟨ha, hb⟩ | ⟨ha, hb⟩⟩ := h
  · exact ⟨hash, .inr ⟨hb, ha⟩⟩
  · exact ⟨hash, .inl ⟨hb, ha⟩⟩

theorem Namesakes.text_eq {a b : ScAddress} (h : Namesakes a b) : a.text = b.text := by
  obtain ⟨hash, ⟨rfl, rfl⟩ | ⟨rfl, rfl⟩⟩ := h
  · rfl
  · rfl

theorem namesakes_of_digits_eq {balance : BalanceId} {pool : PoolId}
    (h : balance.text = pool.text) : Namesakes (.claimableBalance balance) (.liquidityPool pool) := by
  obtain ⟨hash⟩ := balance
  obtain ⟨hash'⟩ := pool
  obtain rfl : hash = hash' := FixedBytes.ext (Hex.text_injective h)
  exact ⟨hash, .inl ⟨rfl, rfl⟩⟩

theorem eq_or_namesakes_of_text_eq {a b : ScAddress} (h : a.text = b.text) :
    a = b ∨ Namesakes a b := by
  cases a with
  | account id =>
      cases b with
      | account id' => exact .inl (congrArg account (AccountId.text_injective h))
      | contract _ | muxedAccount _ => cases (StrKey.encode_inj.mp h).1
      | claimableBalance _ | liquidityPool _ => exact absurd h (StrKey.encode_ne_hexText _ _ _)
  | contract id =>
      cases b with
      | contract id' => exact .inl (congrArg contract (ContractId.text_injective h))
      | account _ | muxedAccount _ => cases (StrKey.encode_inj.mp h).1
      | claimableBalance _ | liquidityPool _ => exact absurd h (StrKey.encode_ne_hexText _ _ _)
  | muxedAccount key =>
      cases b with
      | muxedAccount key' => exact .inl (congrArg muxedAccount (MuxedKey.text_injective h))
      | account _ | contract _ => cases (StrKey.encode_inj.mp h).1
      | claimableBalance _ | liquidityPool _ => exact absurd h (StrKey.encode_ne_hexText _ _ _)
  | claimableBalance id =>
      cases b with
      | claimableBalance id' => exact .inl (congrArg claimableBalance (BalanceId.text_injective h))
      | liquidityPool id' => exact .inr (namesakes_of_digits_eq h)
      | account _ | contract _ | muxedAccount _ =>
          exact absurd h.symm (StrKey.encode_ne_hexText _ _ _)
  | liquidityPool id =>
      cases b with
      | liquidityPool id' => exact .inl (congrArg liquidityPool (PoolId.text_injective h))
      | claimableBalance id' => exact .inr (namesakes_of_digits_eq h.symm).symm
      | account _ | contract _ | muxedAccount _ =>
          exact absurd h.symm (StrKey.encode_ne_hexText _ _ _)

theorem text_eq_text_iff {a b : ScAddress} : a.text = b.text ↔ a = b ∨ Namesakes a b := by
  constructor
  · exact eq_or_namesakes_of_text_eq
  · rintro (rfl | h)
    · rfl
    · exact h.text_eq

end ScAddress

/-- A signed payload is written as the key, the number of bytes, the payload and zeros. -/
theorem SignerKey.text_signedPayload (signer : SignedPayload) :
    (SignerKey.signedPayload signer).text = StrKey.encode .signedPayload
      (signer.key.bytes ++ (BigEndian.write 4 signer.payload.length [] ++
        (signer.payload ++ List.replicate (padding signer.payload.length) 0))) := by
  rw [SignerKey.text, signer.encode_eq]

/-- Signers with the same text are the same, and so are accounts that may carry a number. Addresses
with the same text are the same, but for a balance and a pool with the same hash. The text of a key
is the version, the key and the checksum in base32, with the letter of its kind in front and no
padding behind; the key of a signed payload ends with the payload, its length in front and zeros
behind. -/
theorem texts_shared_by_balance_and_pool_alone :
    (∀ key key' : SignerKey, key.text = key'.text ↔ key = key') ∧
    (∀ account account' : MuxedAccount, account.text = account'.text ↔ account = account') ∧
    (∀ a b : ScAddress, a.text = b.text ↔ a = b ∨ a.Namesakes b) ∧
    (∀ kind key, (StrKey.encode kind key).toList = Base32.encode
        (kind.version :: key ++ Crc16.littleEndian (kind.version :: key)) ∧
      (StrKey.encode kind key).toList.head? = some kind.letter ∧
      (StrKey.encode kind key).toList ⊆ Base32.alphabet) ∧
    ∀ signer : SignedPayload, (SignerKey.signedPayload signer).text = StrKey.encode .signedPayload
      (signer.key.bytes ++ (BigEndian.write 4 signer.payload.length [] ++
        (signer.payload ++ List.replicate (padding signer.payload.length) 0))) := by
  refine ⟨fun _ _ => SignerKey.text_injective.eq_iff, fun _ _ => MuxedAccount.text_injective.eq_iff,
    fun _ _ => ScAddress.text_eq_text_iff, fun kind key => ⟨?_, ?_, ?_⟩,
    SignerKey.text_signedPayload⟩
  · rw [StrKey.encode, String.toList_ofList, StrKey.withChecksum]
  · exact StrKey.head?_encode kind key
  · exact StrKey.encode_subset_alphabet kind key

end Protocol

end LedgerExport
