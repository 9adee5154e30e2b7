import LedgerExport.Proofs.Render.LedgerFailures
import LedgerExport.Proofs.StrKey

/-!
# Upgrades are converted from their encodings alone

A header keeps upgrades as byte strings. One is shown exactly if it is the whole
encoding of an upgrade, and what is shown determines the byte string. Anything
else is an unknown upgrade, reported by the number that its first four bytes spell
in two's complement, or by minus one if it has not so many.
-/

namespace LedgerExport

/-! ## What is reported -/

/-- The first four bytes are a signed number, the most significant one first. -/
theorem upgradeDiscriminant_cons (a b c d : UInt8) (rest : Octets) :
    upgradeDiscriminant (a :: b :: c :: d :: rest) =
      Int.bmod (((a.toNat * 256 + b.toNat) * 256 + c.toNat) * 256 + d.toNat : Nat) (2 ^ 32) := by
  have hlength : ¬(a :: b :: c :: d :: rest).length < 4 := by
    simp only [List.length_cons]
    omega
  have hfirst : (a :: b :: c :: d :: rest).take 4 = [a, b, c, d] := rfl
  have hnumber : BigEndian.read [a, b, c, d] =
      ((a.toNat * 256 + b.toNat) * 256 + c.toNat) * 256 + d.toNat := by
    simp only [BigEndian.read, List.foldl_cons, List.foldl_nil, Nat.zero_mul, Nat.zero_add]
  rw [upgradeDiscriminant, if_neg hlength, hfirst, hnumber, UInt32.toInt32_ofNat',
    Int32.toInt_ofNat']
  rfl

theorem upgradeDiscriminant_of_short {bytes : Octets} (h : bytes.length < 4) :
    upgradeDiscriminant bytes = -1 :=
  if_pos h

namespace Protocol.LedgerUpgrade

variable {bytes : Octets} {shown : Record.LedgerUpgrade}

/-! ## What is shown -/

theorem render_injective : Function.Injective render := by
  intro upgrade upgrade' h
  cases upgrade with
  | config key =>
      cases upgrade' with
      | config key' =>
          obtain ⟨hcontract, hcontent⟩ := Record.LedgerUpgrade.config.inj h
          obtain ⟨contract, content⟩ := key
          obtain ⟨contract', content'⟩ := key'
          exact congrArg config
            (congrArg₂ UpgradeKey.mk (ContractId.text_injective hcontract) hcontent)
      | _ => cases h
  | _ =>
      -- The other kinds show their number as it is.
      cases upgrade' <;> cases h
      rfl

/-- A byte string is shown exactly if it is the whole encoding of an upgrade, and as that one. -/
theorem ofBytes_eq_ok_iff :
    ofBytes bytes = .ok shown ↔
      ∃ upgrade : LedgerUpgrade, layout.encode upgrade = bytes ∧ upgrade.render = shown := by
  simp only [← exact_layout.decode_eq_ok_iff]
  rw [ofBytes]
  cases layout.decode bytes with
  | ok upgrade => simp
  | error fault => simp

/-- An upgrade that is shown comes from one byte string. -/
theorem eq_of_ofBytes_eq {bytes' : Octets} (h : ofBytes bytes = .ok shown)
    (h' : ofBytes bytes' = .ok shown) : bytes = bytes' := by
  obtain ⟨upgrade, rfl, hshown⟩ := ofBytes_eq_ok_iff.mp h
  obtain ⟨upgrade', rfl, hshown'⟩ := ofBytes_eq_ok_iff.mp h'
  rw [render_injective (hshown.trans hshown'.symm)]

theorem length_encode (upgrade : LedgerUpgrade) :
    (layout.encode upgrade).length = 8 ∨ (layout.encode upgrade).length = 68 := by
  cases upgrade with
  | config key =>
      right
      show (BigEndian.write 4 6 (key.contract.hash.bytes ++ (key.contentHash.bytes ++ []))).length = 68
      rw [BigEndian.length_write, List.length_append, List.length_append,
        key.contract.hash.length_bytes, key.contentHash.length_bytes, List.length_nil]
  | _ =>
      left
      show (BigEndian.write 4 _ (BigEndian.write 4 _ [])).length = 8
      rw [BigEndian.length_write, BigEndian.length_write, List.length_nil]

/-- A byte string is shown exactly if it is the whole encoding of an upgrade, no two are shown
alike, and every upgrade has an encoding that a header can keep. Any other byte string is an unknown
upgrade, reported by its first four bytes as a signed number, or by minus one if it is shorter. -/
theorem upgrades_converted_exactly :
    (∀ bytes shown, ofBytes bytes = .ok shown ↔
      ∃ upgrade : LedgerUpgrade, layout.encode upgrade = bytes ∧ upgrade.render = shown) ∧
    (∀ bytes bytes' shown, ofBytes bytes = .ok shown → ofBytes bytes' = .ok shown →
      bytes = bytes') ∧
    (∀ upgrade : LedgerUpgrade, ofBytes (layout.encode upgrade) = .ok upgrade.render ∧
      (layout.encode upgrade).length ≤ 128) ∧
    (∀ bytes error, ofBytes bytes = .error error ↔
      (∀ upgrade : LedgerUpgrade, layout.encode upgrade ≠ bytes) ∧
        error = .unknownUpgrade (upgradeDiscriminant bytes)) ∧
    (∀ discriminant, (Error.unknownUpgrade discriminant).category = .unknownVariant ∧
      (Error.unknownUpgrade discriminant).variant? = some ("LedgerUpgrade", discriminant)) ∧
    (∀ (a b c d : UInt8) (rest : Octets), upgradeDiscriminant (a :: b :: c :: d :: rest) =
      Int.bmod (((a.toNat * 256 + b.toNat) * 256 + c.toNat) * 256 + d.toNat : Nat) (2 ^ 32)) ∧
    ∀ bytes : Octets, bytes.length < 4 → upgradeDiscriminant bytes = -1 := by
  refine ⟨fun _ _ => ofBytes_eq_ok_iff, fun _ _ _ => eq_of_ofBytes_eq, fun upgrade => ?_,
    fun bytes error => ?_, fun _ => ⟨rfl, rfl⟩, upgradeDiscriminant_cons,
    fun _ => upgradeDiscriminant_of_short⟩
  · refine ⟨ofBytes_eq_ok_iff.mpr ⟨upgrade, rfl, rfl⟩, ?_⟩
    have hlength := upgrade.length_encode
    omega
  · rw [ofBytes_eq_error_iff, Encoded, not_exists]

/-- A new fee is shown and comes from one byte string, which is unknown with a byte behind it; so are
two bytes alone, and a first word with the highest bit is a negative number. -/
theorem fee_converted_from_whole_encoding :
    let fee : Octets := [0, 0, 0, 2, 0, 0, 0, 200]
    ofBytes fee = .ok (.baseFee 200) ∧
      (∀ bytes, ofBytes bytes = .ok (.baseFee 200) → fee = bytes) ∧
      ofBytes (fee ++ [0]) = .error (.unknownUpgrade 2) ∧
      ofBytes [0, 0] = .error (.unknownUpgrade (-1)) ∧
      ofBytes [0xff, 0xff, 0xff, 0xfe] = .error (.unknownUpgrade (-2)) := by
  intro fee
  obtain ⟨hshown, hsame, -, hunknown, -, hword, hshort⟩ := upgrades_converted_exactly
  have hfee : ofBytes fee = .ok (.baseFee 200) := (hshown _ _).mpr ⟨.baseFee 200, rfl, rfl⟩
  have hno (bytes : Octets) (h8 : bytes.length ≠ 8) (h68 : bytes.length ≠ 68)
      (upgrade : LedgerUpgrade) : layout.encode upgrade ≠ bytes := by
    rintro rfl
    have hlength := upgrade.length_encode
    omega
  have hlonger : upgradeDiscriminant (fee ++ [0]) = 2 :=
    (hword 0 0 0 2 [0, 0, 0, 200, 0]).trans (by decide)
  have hnegative : upgradeDiscriminant [0xff, 0xff, 0xff, 0xfe] = -2 :=
    (hword 0xff 0xff 0xff 0xfe []).trans (by decide)
  refine ⟨hfee, fun bytes h => hsame fee bytes _ hfee h, ?_, ?_, ?_⟩
  · exact (hunknown _ _).mpr ⟨hno _ (by decide) (by decide), by rw [hlonger]⟩
  · exact (hunknown _ _).mpr ⟨hno _ (by decide) (by decide), by rw [hshort [0, 0] (by decide)]⟩
  · exact (hunknown _ _).mpr ⟨hno _ (by decide) (by decide), by rw [hnegative]⟩

end Protocol.LedgerUpgrade

end LedgerExport
