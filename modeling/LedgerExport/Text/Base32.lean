import LedgerExport.Bytes.Basic

/-!
# Base32 without padding

Five bits a character, in the alphabet `A` to `Z`, `2` to `7`. The bits left in
the last character are zero; a text in which they are not, or that has a
character too many, is refused, so each byte string has one text.
-/

namespace LedgerExport.Base32

/-- The bits of a number, most significant first. -/
def bits : Nat → Nat → List Bool
  | 0, _ => []
  | width + 1, n => n.testBit width :: bits width n

/-- The number that some bits spell. -/
def number (digits : List Bool) : Nat :=
  digits.foldl (fun n b => 2 * n + b.toNat) 0

/-- The character of a number below thirty-two. -/
def letter (n : Nat) : Char :=
  if n < 26 then Char.ofNat (65 + n) else Char.ofNat (24 + n)

/-- The number of a character of the alphabet. -/
def value? (c : Char) : Option Nat :=
  if 65 ≤ c.toNat ∧ c.toNat ≤ 90 then some (c.toNat - 65)
  else if 50 ≤ c.toNat ∧ c.toNat ≤ 55 then some (c.toNat - 24)
  else none

/-- Five bits at a time as characters; a shorter rest is filled up with zeros. -/
def letters : List Bool → List Char
  | a :: b :: c :: d :: e :: rest => letter (number [a, b, c, d, e]) :: letters rest
  | [] => []
  | rest => [letter (number ((rest ++ [false, false, false, false]).take 5))]

/-- The text of a byte string. -/
def encode (bytes : Octets) : List Char :=
  letters (bytes.flatMap fun b => bits 8 b.toNat)

/-- Eight bits at a time as bytes; fewer than five bits may be left, all of them zero. -/
def gather : List Bool → Option Octets
  | a :: b :: c :: d :: e :: f :: g :: h :: rest =>
    (gather rest).map (UInt8.ofNat (number [a, b, c, d, e, f, g, h]) :: ·)
  | rest => if rest.length < 5 ∧ rest.all (!·) then some [] else none

/-- The byte string of a text. -/
def decode? (text : List Char) : Option Octets := do
  let values ← text.mapM value?
  gather (values.flatMap (bits 5))

end LedgerExport.Base32
