import LedgerExport.Text.Decimal
import LedgerExport.Toml.Text
import LedgerExport.Toml.Value

/-!
# Numbers and dates of TOML

Integers have 64 bits with a sign. Digits may have single underscores between
them. A float has a fraction, an exponent or both. Dates and times are checked
against the calendar.

## Implementation notes

A float above the greatest double is refused; one below the least is not.
-/

namespace LedgerExport.Toml

open Scanner

/-- The value of a digit in a base. -/
def digitOf? (base : Nat) (c : Char) : Option Nat :=
  if c.toNat < 128 then (Hex.value? (UInt8.ofNat c.toNat)).filter (· < base) else none

/-- One digit of a base. -/
def digit (base : Nat) : Scanner Nat := do
  let c ← satisfying fun c => (digitOf? base c).isSome
  return (digitOf? base c).getD 0

/-- Digits of a base with single underscores between them. -/
def digits (base : Nat) : Scanner (List Nat) := do
  let first ← digit base
  let more ← many (digit base <|> (char '_' *> digit base))
  return first :: more

/-- The number that digits spell. -/
def number (base : Nat) (values : List Nat) : Nat :=
  values.foldl (fun n d => base * n + d) 0

/-- A sign, true for minus; none is plus. -/
def sign : Scanner Bool :=
  (char '-' *> pure true) <|> (char '+' *> pure false) <|> pure false

/-- Decimal digits without a zero in front, other than zero itself. -/
def wholeDigits : Scanner (List Nat) := do
  let values ← (do let d ← filtered (digit 10) (· = 0); return [d]) <|> digits 10
  return values

/-! ## Integers -/

/-- An integer in another base than ten. -/
def basedInteger (mark : Char) (base : Nat) : Scanner Int := do
  word ['0', mark]
  let values ← digits base
  let n := number base values
  if n < 0x8000000000000000 then return n else failure

/-- An integer. -/
def integer : Scanner Int :=
  basedInteger 'x' 16 <|> basedInteger 'o' 8 <|> basedInteger 'b' 2 <|> do
    let negative ← sign
    let values ← wholeDigits
    let n := number 10 values
    if negative then if n ≤ 0x8000000000000000 then return -(n : Int) else failure
    else if n < 0x8000000000000000 then return n else failure

/-! ## Floats -/

/-- The least number that rounds to no double below infinity. -/
def floatBound : Nat := Nat.pow 2 1024 - Nat.pow 2 970

/-- Whether `n * 10 ^ shift`, which has the given number of digits, is too large for a double. -/
def tooLarge (n : Nat) (digitCount : Nat) (shift : Int) : Bool :=
  n != 0 &&
    (400 < shift ||
      (-(digitCount : Int) ≤ shift &&
        (if 0 ≤ shift then decide (floatBound ≤ n * Nat.pow 10 shift.toNat)
          else decide (floatBound * Nat.pow 10 (-shift).toNat ≤ n))))

/-- A float with digits. -/
def digitFloat : Scanner Unit := do
  let negative ← sign
  let whole ← wholeDigits
  let fraction ← Scanner.optional (char '.' *> digits 10)
  let exponent ← Scanner.optional do
    let _ ← satisfying fun c => c == 'e' || c == 'E'
    let below ← sign
    let n := number 10 (← digits 10)
    return if below then -(n : Int) else (n : Int)
  if fraction.isNone && exponent.isNone then failure
  let values := whole ++ fraction.getD []
  let shift := exponent.getD 0 - ((fraction.getD []).length : Int)
  if !negative && tooLarge (number 10 values) values.length shift then failure

/-- A float that has a name. -/
def namedFloat : Scanner Unit := do
  let _ ← sign
  word "inf".toList <|> word "nan".toList

/-- A float. -/
def float : Scanner String :=
  String.ofList <$> taken (digitFloat <|> namedFloat)

/-! ## Dates -/

/-- A number of a given width between two bounds. -/
def within (width low high : Nat) : Scanner Nat :=
  filtered (number 10 <$> times (digit 10) width) fun n => low ≤ n && n ≤ high

/-- The number of days of a month. -/
def daysIn (year month : Nat) : Nat :=
  if month = 2 then
    if year % 4 = 0 ∧ (year % 100 ≠ 0 ∨ year % 400 = 0) then 29 else 28
  else if month = 4 ∨ month = 6 ∨ month = 9 ∨ month = 11 then 30
  else 31

/-- A day of the calendar. -/
def day : Scanner Unit := do
  let year ← within 4 0 9999
  char '-'
  let month ← within 2 1 12
  char '-'
  let _ ← within 2 1 (daysIn year month)

/-- A time of the day, with seconds. -/
def time : Scanner Unit := do
  let _ ← within 2 0 23
  char ':'
  let _ ← within 2 0 59
  char ':'
  let _ ← within 2 0 60
  let _ ← Scanner.optional (char '.' *> many1 (digit 10))

/-- A distance from universal time. -/
def offset : Scanner Unit :=
  (do let _ ← satisfying fun c => c == 'Z' || c == 'z') <|> do
    let _ ← satisfying fun c => c == '+' || c == '-'
    let _ ← within 2 0 23
    char ':'
    let _ ← within 2 0 59

/-- A day with or without a time, or a time. -/
def date : Scanner String :=
  String.ofList <$> taken (
    (do
      day
      let _ ← Scanner.optional do
        let _ ← satisfying fun c => c == 'T' || c == 't' || c == ' '
        time
        let _ ← Scanner.optional offset) <|> time)

/-! ## Scalars -/

/-- A value that holds no other. -/
def scalar : Scanner Value :=
  ((fun s => .text (String.ofList s)) <$> anyText)
    <|> (word "true".toList *> pure (.bool true))
    <|> (word "false".toList *> pure (.bool false))
    <|> (.date <$> date)
    <|> (.float <$> float)
    <|> (.integer <$> integer)

end LedgerExport.Toml
