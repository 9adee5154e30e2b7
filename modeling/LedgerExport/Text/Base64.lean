import LedgerExport.Bytes.Basic

/-!
# Base64 with padding

Four characters stand for three bytes; the last group may stand for one or two,
its missing characters written as `=` and its unused bits zero.

## Implementation notes

Reading hands over what the groups before the first fault spell, together with
whether there was a fault: a reader of the bytes that stops early never meets it.
-/

namespace LedgerExport.Base64

/-- The character that fills up the last group. -/
def padding : UInt8 := 61

/-- The character of a number below sixty-four. -/
def letter (n : Nat) : UInt8 :=
  if n < 26 then UInt8.ofNat (65 + n)
  else if n < 52 then UInt8.ofNat (71 + n)
  else if n < 62 then UInt8.ofNat (n - 4)
  else if n = 62 then 43
  else 47

/-- The number of a character of the alphabet. -/
def value? (c : UInt8) : Option Nat :=
  let n := c.toNat
  if 65 ≤ n ∧ n ≤ 90 then some (n - 65)
  else if 97 ≤ n ∧ n ≤ 122 then some (n - 71)
  else if 48 ≤ n ∧ n ≤ 57 then some (n + 4)
  else if n = 43 then some 62
  else if n = 47 then some 63
  else none

/-- The text of a byte string. -/
def encode : Octets → Octets
  | a :: b :: c :: rest =>
    let n := BigEndian.read [a, b, c]
    letter (n / 262144) :: letter (n / 4096 % 64) :: letter (n / 64 % 64) :: letter (n % 64) ::
      encode rest
  | [a, b] =>
    let n := BigEndian.read [a, b]
    [letter (n / 1024), letter (n / 16 % 64), letter (n % 16 * 4), padding]
  | [a] => [letter (a.toNat / 4), letter (a.toNat % 4 * 16), padding, padding]
  | [] => []

/-- The bytes of one group, if it is one. -/
def group? (a b c d : UInt8) : Option Octets := do
  let a ← value? a
  let b ← value? b
  if d = padding then
    if c = padding then
      if b % 16 = 0 then some [UInt8.ofNat (a * 4 + b / 16)] else none
    else
      let c ← value? c
      if c % 4 = 0 then some (BigEndian.write 2 (a * 1024 + b * 16 + c / 4) []) else none
  else
    let c ← value? c
    let d ← value? d
    some (BigEndian.write 3 (a * 262144 + b * 4096 + c * 64 + d) [])

/-- What a text spells before its first fault, and whether it has none. -/
structure Reading where
  bytes : Octets
  clean : Bool

/-- Reads group after group; a filled-up group is the last. -/
def decode : Octets → Reading
  | [] => ⟨[], true⟩
  | a :: b :: c :: d :: rest =>
    match group? a b c d with
    | none => ⟨[], false⟩
    | some bytes =>
      if d = padding then ⟨bytes, rest.isEmpty⟩
      else
        let more := decode rest
        ⟨bytes ++ more.bytes, more.clean⟩
  | _ => ⟨[], false⟩

end LedgerExport.Base64
