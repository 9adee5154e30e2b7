/-!
# Bytes

Byte strings are lists of bytes. A byte string whose length the schema fixes
carries that length, so every hash, key and code below has the right size by
construction. Integers are written big-endian, in front of the bytes that follow.
-/

namespace LedgerExport

/-- A byte string of any length. -/
abbrev Octets := List UInt8

/-- A byte string of exactly `n` bytes. -/
structure FixedBytes (n : Nat) where
  bytes : Octets
  length_bytes : bytes.length = n
deriving DecidableEq

namespace FixedBytes

variable {n : Nat}

/-- The byte string itself when it has `n` bytes. -/
def ofList? (n : Nat) (bytes : Octets) : Option (FixedBytes n) :=
  if h : bytes.length = n then some ⟨bytes, h⟩ else none

/-- `n` zero bytes. -/
def zero (n : Nat) : FixedBytes n :=
  ⟨List.replicate n 0, List.length_replicate⟩

@[ext] theorem ext {a b : FixedBytes n} (h : a.bytes = b.bytes) : a = b := by
  cases a; cases b; cases h; rfl

@[simp] theorem ofList?_bytes (b : FixedBytes n) : ofList? n b.bytes = some b := by
  simp [ofList?, b.length_bytes]

theorem ofList?_eq_some_iff {bytes : Octets} {b : FixedBytes n} :
    ofList? n bytes = some b ↔ bytes = b.bytes := by
  constructor
  · intro h
    by_cases hn : bytes.length = n
    · simp only [ofList?, hn, dif_pos, Option.some.injEq] at h
      rw [← h]
    · simp [ofList?, hn] at h
  · rintro rfl
    exact ofList?_bytes b

end FixedBytes

/-- The output of SHA-256 and every identifier made of one. -/
abbrev Hash := FixedBytes 32

namespace Hash

/-- Hashes are ordered as their byte strings, first difference first. -/
instance : LT Hash := ⟨fun a b => a.bytes < b.bytes⟩

instance (a b : Hash) : Decidable (a < b) :=
  inferInstanceAs (Decidable (a.bytes < b.bytes))

/-- Ascending order; equal hashes stay side by side. -/
def sort (hashes : List Hash) : List Hash :=
  hashes.mergeSort fun a b => !decide (b < a)

end Hash

namespace BigEndian

/-- The low `width` bytes of `n`, most significant first, in front of `rest`. -/
def write : Nat → Nat → Octets → Octets
  | 0, _, rest => rest
  | width + 1, n, rest => UInt8.ofNat (n / Nat.pow 256 width) :: write width n rest

/-- The number that a byte string spells in base 256. -/
def read (bytes : Octets) : Nat :=
  bytes.foldl (fun n b => n * 256 + b.toNat) 0

/-- Writing in front of `rest` is writing, then `rest`. -/
theorem write_eq_append (width n : Nat) (rest : Octets) :
    write width n rest = write width n [] ++ rest := by
  induction width with
  | zero => rfl
  | succ width ih => simp [write, ih]

@[simp] theorem length_write (width n : Nat) (rest : Octets) :
    (write width n rest).length = width + rest.length := by
  induction width with
  | zero => simp [write]
  | succ width ih => simp only [write, List.length_cons, ih]; omega

end BigEndian

end LedgerExport
