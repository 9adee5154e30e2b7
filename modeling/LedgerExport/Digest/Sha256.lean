import LedgerExport.Bytes.Basic

/-!
# SHA-256

The message is padded to a whole number of blocks, each block is sixteen words,
and each block moves a state of eight words by sixty-four rounds.

## Implementation notes

The message schedule is kept newest word first, so the words that the next one
needs stand at fixed positions of the list.
-/

namespace LedgerExport.Sha256

/-- The fractional parts of the cube roots of the first sixty-four primes. -/
def constants : List UInt32 :=
  [0x428a2f98, 0x71374491, 0xb5c0fbcf, 0xe9b5dba5, 0x3956c25b, 0x59f111f1, 0x923f82a4, 0xab1c5ed5,
   0xd807aa98, 0x12835b01, 0x243185be, 0x550c7dc3, 0x72be5d74, 0x80deb1fe, 0x9bdc06a7, 0xc19bf174,
   0xe49b69c1, 0xefbe4786, 0x0fc19dc6, 0x240ca1cc, 0x2de92c6f, 0x4a7484aa, 0x5cb0a9dc, 0x76f988da,
   0x983e5152, 0xa831c66d, 0xb00327c8, 0xbf597fc7, 0xc6e00bf3, 0xd5a79147, 0x06ca6351, 0x14292967,
   0x27b70a85, 0x2e1b2138, 0x4d2c6dfc, 0x53380d13, 0x650a7354, 0x766a0abb, 0x81c2c92e, 0x92722c85,
   0xa2bfe8a1, 0xa81a664b, 0xc24b8b70, 0xc76c51a3, 0xd192e819, 0xd6990624, 0xf40e3585, 0x106aa070,
   0x19a4c116, 0x1e376c08, 0x2748774c, 0x34b0bcb5, 0x391c0cb3, 0x4ed8aa4a, 0x5b9cca4f, 0x682e6ff3,
   0x748f82ee, 0x78a5636f, 0x84c87814, 0x8cc70208, 0x90befffa, 0xa4506ceb, 0xbef9a3f7, 0xc67178f2]

/-- The eight working words. -/
structure State where
  a : UInt32
  b : UInt32
  c : UInt32
  d : UInt32
  e : UInt32
  f : UInt32
  g : UInt32
  h : UInt32

namespace State

/-- The fractional parts of the square roots of the first eight primes. -/
def start : State :=
  ⟨0x6a09e667, 0xbb67ae85, 0x3c6ef372, 0xa54ff53a, 0x510e527f, 0x9b05688c, 0x1f83d9ab, 0x5be0cd19⟩

/-- Word by word addition. -/
def add (s t : State) : State :=
  ⟨s.a + t.a, s.b + t.b, s.c + t.c, s.d + t.d, s.e + t.e, s.f + t.f, s.g + t.g, s.h + t.h⟩

/-- The words as thirty-two bytes. -/
def digest (s : State) : Hash :=
  let word (w : UInt32) (rest : Octets) := BigEndian.write 4 w.toNat rest
  ⟨word s.a (word s.b (word s.c (word s.d (word s.e (word s.f (word s.g (word s.h []))))))),
    by simp [word]⟩

end State

/-- Rotation to the right. -/
def rotate (w by' : UInt32) : UInt32 :=
  (w >>> by') ||| (w <<< (32 - by'))

/-- The word that follows a schedule given newest word first. -/
def nextWord (newestFirst : List UInt32) : UInt32 :=
  let w2 := newestFirst.getD 1 0
  let w15 := newestFirst.getD 14 0
  (rotate w2 17 ^^^ rotate w2 19 ^^^ (w2 >>> 10)) + newestFirst.getD 6 0
    + (rotate w15 7 ^^^ rotate w15 18 ^^^ (w15 >>> 3)) + newestFirst.getD 15 0

/-- A schedule continued by `n` words. -/
def extend : Nat → List UInt32 → List UInt32
  | 0, newestFirst => newestFirst
  | n + 1, newestFirst => extend n (nextWord newestFirst :: newestFirst)

/-- One round, with its constant and its schedule word. -/
def round (s : State) (input : UInt32 × UInt32) : State :=
  let choice := (s.e &&& s.f) ^^^ (~~~s.e &&& s.g)
  let majority := (s.a &&& s.b) ^^^ (s.a &&& s.c) ^^^ (s.b &&& s.c)
  let first := s.h + (rotate s.e 6 ^^^ rotate s.e 11 ^^^ rotate s.e 25) + choice + input.1 + input.2
  let second := (rotate s.a 2 ^^^ rotate s.a 13 ^^^ rotate s.a 22) + majority
  ⟨first + second, s.a, s.b, s.c, s.d + first, s.e, s.f, s.g⟩

/-- The state after one block of sixteen words. -/
def compress (s : State) (block : List UInt32) : State :=
  s.add ((constants.zip (extend 48 block.reverse).reverse).foldl round s)

/-- The message, a mark, zeros up to the end of a block but eight bytes, and the length in bits. -/
def pad (message : Octets) : Octets :=
  message ++ 0x80 :: List.replicate ((119 - message.length % 64) % 64) 0
    ++ BigEndian.write 8 (8 * message.length) []

/-- Bytes four at a time as words. -/
def words : Octets → List UInt32
  | a :: b :: c :: d :: rest => UInt32.ofNat (BigEndian.read [a, b, c, d]) :: words rest
  | _ => []

/-- The state after `n` more blocks. -/
def absorb : Nat → List UInt32 → State → State
  | 0, _, s => s
  | n + 1, input, s => absorb n (input.drop 16) (compress s (input.take 16))

/-- The digest of a message. -/
def hash (message : Octets) : Hash :=
  let input := words (pad message)
  (absorb (input.length / 16) input State.start).digest

end LedgerExport.Sha256
