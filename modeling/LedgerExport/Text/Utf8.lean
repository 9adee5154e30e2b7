import LedgerExport.Bytes.Basic

/-!
# UTF-8

A byte string is scanned into characters and marks, one mark for each maximal
run of bytes that starts like a character and then breaks off, or for each byte
that cannot start one. Text shown to a reader puts the replacement character in
place of a mark; text that must be well formed has no mark.

## Implementation notes

The second byte of a sequence has a narrower range after `e0`, `ed`, `f0` and
`f4`; this excludes overlong forms, surrogates and numbers above the last
character, so every sequence that passes spells a character.
-/

namespace LedgerExport.Utf8

/-- The bytes of a text. -/
def encode (text : List Char) : Octets :=
  text.flatMap String.utf8EncodeChar

/-- The bytes of a string. -/
def bytes (text : String) : Octets :=
  encode text.toList

/-- Whether a byte lies between two bounds, both included. -/
def within (low high byte : UInt8) : Bool :=
  decide (low ≤ byte ∧ byte ≤ high)

/-- Whether a byte may continue a sequence. -/
def continues (byte : UInt8) : Bool :=
  within 0x80 0xbf byte

/-- Whether `second` may follow the lead byte of a three-byte sequence. -/
def followsThree (lead second : UInt8) : Bool :=
  if lead = 0xe0 then within 0xa0 0xbf second
  else if lead = 0xed then within 0x80 0x9f second
  else continues second

/-- Whether `second` may follow the lead byte of a four-byte sequence. -/
def followsFour (lead second : UInt8) : Bool :=
  if lead = 0xf0 then within 0x90 0xbf second
  else if lead = 0xf4 then within 0x80 0x8f second
  else continues second

/-- The character spelt by a lead byte's payload and its continuation bytes. -/
def char (lead : Nat) (more : Octets) : Char :=
  Char.ofNat (more.foldl (fun n b => n * 64 + b.toNat % 64) lead)

/-- Characters in order, `none` standing for one run of bytes that spells none. -/
def scan : Octets → List (Option Char)
  | [] => []
  | a :: rest =>
    if a < 0x80 then
      some (char a.toNat []) :: scan rest
    else if within 0xc2 0xdf a then
      match rest with
      | b :: rest' =>
        if continues b then some (char (a.toNat % 32) [b]) :: scan rest'
        else none :: scan (b :: rest')
      | [] => [none]
    else if within 0xe0 0xef a then
      match rest with
      | b :: rest' =>
        if followsThree a b then
          match rest' with
          | c :: rest'' =>
            if continues c then some (char (a.toNat % 16) [b, c]) :: scan rest''
            else none :: scan (c :: rest'')
          | [] => [none]
        else none :: scan (b :: rest')
      | [] => [none]
    else if within 0xf0 0xf4 a then
      match rest with
      | b :: rest' =>
        if followsFour a b then
          match rest' with
          | c :: rest'' =>
            if continues c then
              match rest'' with
              | d :: rest''' =>
                if continues d then some (char (a.toNat % 8) [b, c, d]) :: scan rest'''
                else none :: scan (d :: rest''')
              | [] => [none]
            else none :: scan (c :: rest'')
          | [] => [none]
        else none :: scan (b :: rest')
      | [] => [none]
    else none :: scan rest

/-- The characters of a well-formed byte string. -/
def decode? (bytes : Octets) : Option (List Char) :=
  (scan bytes).mapM id

/-- A well-formed byte string as a string. -/
def string? (bytes : Octets) : Option String :=
  (decode? bytes).map String.ofList

/-- Any byte string as a string, with the replacement character where it spells none. -/
def lossy (bytes : Octets) : String :=
  String.ofList ((scan bytes).map fun c => c.getD '\ufffd')

end LedgerExport.Utf8
