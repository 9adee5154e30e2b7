import LedgerExport.Bytes.Basic

/-!
# Layouts of values as bytes

A layout says how a part `σ` of a value is written and how a result `α` is read
back: big-endian words, byte strings padded to a multiple of four, lists behind
their count, and unions behind their tag. A codec is a layout whose part and
result are of one type. Structures are laid out field by field with `make` and
`field`; unions with `union`; recursive types with `unroll`.

## Implementation notes

Writing puts bytes in front of the bytes that follow, so that a whole value is
written in one pass. A value `fits` when its lists and byte strings keep to the
limits of the schema; the types themselves do not carry these limits.

Reading a recursive type unrolls its shape once for every level that the input
visits, and at most once for every byte of it.
-/

namespace LedgerExport.Xdr

/-- Why a byte string is not the encoding of a value. -/
inductive Fault
  | endOfInput
  | invalidValue
  | tooLong
  | nonZeroPadding
deriving DecidableEq

/-- The text shown for a fault. -/
def Fault.message : Fault → String
  | .endOfInput => "failed to fill whole buffer"
  | .invalidValue => "xdr value invalid"
  | .tooLong => "xdr value max length exceeded"
  | .nonZeroPadding => "xdr padding contains non-zero bytes"

/-- A reader of the bytes in front. -/
abbrev Decoder := StateT Octets (Except Fault)

/-- How a part is written and a result is read. -/
structure Layout (σ α : Type) where
  write : σ → Octets → Octets
  read : Decoder α
  fits : σ → Prop

/-- A layout of whole values. -/
abbrev Codec (α : Type) := Layout α α

/-- The encoding of a value. -/
def Layout.encode {σ α : Type} (layout : Layout σ α) (part : σ) : Octets :=
  layout.write part []

/-- The value that a whole byte string encodes; bytes left over make it invalid. -/
def Layout.decode {σ α : Type} (layout : Layout σ α) (bytes : Octets) : Except Fault α :=
  match layout.read bytes with
  | .ok (value, []) => .ok value
  | .ok (_, _ :: _) => .error .invalidValue
  | .error fault => .error fault

variable {σ τ α β : Type}

/-! ## Bytes and words -/

/-- The first `n` bytes and the rest. -/
def split : (n : Nat) → Octets → Option (FixedBytes n × Octets)
  | 0, bytes => some (⟨[], rfl⟩, bytes)
  | _ + 1, [] => none
  | n + 1, b :: bytes =>
    match split n bytes with
    | some (first, rest) => some (⟨b :: first.bytes, by simp [first.length_bytes]⟩, rest)
    | none => none

/-- Reads exactly `n` bytes. -/
def take (n : Nat) : Decoder (FixedBytes n) := fun bytes =>
  match split n bytes with
  | some found => .ok found
  | none => .error .endOfInput

/-- Reads a number of `width` bytes. -/
def word (width : Nat) : Decoder Nat := do
  return BigEndian.read (← take width).bytes

/-- A fixed number of bytes, a multiple of four. -/
def fixed (n : Nat) : Codec (FixedBytes n) where
  write value rest := value.bytes ++ rest
  read := take n
  fits _ := True

def uint32 : Codec UInt32 where
  write n := BigEndian.write 4 n.toNat
  read := do return UInt32.ofNat (← word 4)
  fits _ := True

def int32 : Codec Int32 where
  write n := BigEndian.write 4 n.toUInt32.toNat
  read := do return (UInt32.ofNat (← word 4)).toInt32
  fits _ := True

def uint64 : Codec UInt64 where
  write n := BigEndian.write 8 n.toNat
  read := do return UInt64.ofNat (← word 8)
  fits _ := True

def int64 : Codec Int64 where
  write n := BigEndian.write 8 n.toUInt64.toNat
  read := do return (UInt64.ofNat (← word 8)).toInt64
  fits _ := True

/-- One is true and every other word is false. -/
def bool : Codec Bool where
  write b := BigEndian.write 4 b.toNat
  read := do return (← word 4) == 1
  fits _ := True

/-- The number of zeros behind `n` bytes. -/
def padding (n : Nat) : Nat :=
  (4 - n % 4) % 4

/-- At most `limit` bytes behind their number, filled up to a multiple of four with zeros. -/
def octets (limit : Nat) : Codec Octets where
  write bytes rest :=
    BigEndian.write 4 bytes.length
      (bytes ++ (List.replicate (padding bytes.length) 0 ++ rest))
  read := do
    let n ← word 4
    if limit < n then throw .tooLong
    let content ← take n
    let filler ← take (padding n)
    if filler.bytes.any (· != 0) then throw .nonZeroPadding
    return content.bytes
  fits bytes := bytes.length ≤ limit

/-- The largest number that fits in front of a list or a byte string. -/
def unlimited : Nat := 0xFFFFFFFF

/-! ## Structures -/

namespace Layout

/-- A value without bytes. -/
def make (value : α) : Layout σ α where
  write _ rest := rest
  read := pure value
  fits _ := True

/-- One more field behind those laid out before. -/
def field (before : Layout σ (α → β)) (codec : Codec α) (part : σ → α) : Layout σ β where
  write s rest := before.write s (codec.write (part s) rest)
  read := do
    let build ← before.read
    return build (← codec.read)
  fits s := before.fits s ∧ codec.fits (part s)

/-- A word that is always `tag`, behind the fields laid out before. -/
def mark (before : Layout σ α) (tag : Nat) : Layout σ α where
  write s rest := before.write s (BigEndian.write 4 tag rest)
  read := do
    let value ← before.read
    if (← word 4) = tag then return value else throw .invalidValue
  fits := before.fits

end Layout

/-- A value without bytes. -/
def void : Codec Unit := Layout.make ()

/-- Two values, one behind the other. -/
def pair (first : Codec α) (second : Codec β) : Codec (α × β) :=
  Layout.make Prod.mk |>.field first (·.1) |>.field second (·.2)

/-! ## Options, lists and unions -/

/-- Nothing as the word 0, a value behind the word `tag`. -/
def extension (tag : Nat) (codec : Codec α) : Codec (Option α) where
  write
    | none, rest => BigEndian.write 4 0 rest
    | some value, rest => BigEndian.write 4 tag (codec.write value rest)
  read := do
    let n ← word 4
    if n = 0 then return none
    else if n = tag then return some (← codec.read)
    else throw .invalidValue
  fits
    | none => True
    | some value => codec.fits value

/-- An optional value behind a flag. -/
def optional (codec : Codec α) : Codec (Option α) :=
  extension 1 codec

/-- Reads `n` values. -/
def readMany (decoder : Decoder α) : Nat → Decoder (List α)
  | 0 => pure []
  | n + 1 => do
    let first ← decoder
    return first :: (← readMany decoder n)

/-- At most `limit` values behind their number. -/
def list (limit : Nat) (codec : Codec α) : Codec (List α) where
  write values rest := BigEndian.write 4 values.length (values.foldr codec.write rest)
  read := do
    let n ← word 4
    if limit < n then throw .tooLong
    readMany codec.read n
  fits values := values.length ≤ limit ∧ ∀ value ∈ values, codec.fits value

/-- Any number of values behind their number. -/
def many (codec : Codec α) : Codec (List α) :=
  list unlimited codec

/-- A value of a union: its tag and what stands behind it. -/
structure Arm where
  tag : Nat
  {payloadType : Type}
  codec : Codec payloadType
  payload : payloadType

/-- A tag and the arm that it selects. -/
def union (view : α → Arm) (read : Nat → Decoder α) : Codec α where
  write value rest :=
    BigEndian.write 4 (view value).tag ((view value).codec.write (view value).payload rest)
  read := do read (← word 4)
  fits value := (view value).codec.fits (view value).payload

/-- A union with one arm. -/
def single (tag : Nat) (codec : Codec α) : Codec α :=
  union (fun value => ⟨tag, codec, value⟩)
    fun n => if n = tag then codec.read else throw .invalidValue

/-- One word for each of the listed values. -/
def enumeration (members : List α) (code : α → UInt32) : Codec α where
  write value := BigEndian.write 4 (code value).toNat
  read := do
    let n ← word 4
    match members.find? fun value => (code value).toNat == n with
    | some value => return value
    | none => throw .invalidValue
  fits value := value ∈ members

/-! ## Recursive types -/

/-- A codec worked out when it is used. -/
def delay (codec : Unit → Codec α) : Codec α where
  write value rest := (codec ()).write value rest
  read := fun bytes => (codec ()).read bytes
  fits value := (codec ()).fits value

/-- The codec of no value. -/
def nothing : Codec α where
  write _ rest := rest
  read := throw .endOfInput
  fits _ := False

/-- A shape applied to itself as often as the list is long. -/
def unroll (shape : Codec α → Codec α) : List β → Codec α
  | [] => nothing
  | _ :: levels => delay fun _ => shape (unroll shape levels)

/-- The codec of a recursive type, given the number of levels of a value. -/
def recursive (shape : Codec α → Codec α) (depth : α → Nat) : Codec α where
  write value rest := (unroll shape (List.replicate (depth value) ())).write value rest
  read := fun bytes => (unroll shape bytes).read bytes
  fits value := (unroll shape (List.replicate (depth value) ())).fits value

end LedgerExport.Xdr
