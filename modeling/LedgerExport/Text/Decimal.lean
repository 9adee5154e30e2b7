/-!
# Decimal numerals

Numbers are written with the fewest digits, or with a fixed number of digits
where the order of texts has to be the order of numbers.
-/

namespace LedgerExport.Decimal

/-- The digit of a number below ten. -/
def digit (n : Nat) : Char :=
  Char.ofNat (48 + n)

/-- The value of a digit. -/
def value? (c : Char) : Option Nat :=
  if 48 ≤ c.toNat ∧ c.toNat ≤ 57 then some (c.toNat - 48) else none

/-- The last `width` digits of a number, zeros in front. -/
def fixed : Nat → Nat → List Char
  | 0, _ => []
  | width + 1, n => digit (n / Nat.pow 10 width % 10) :: fixed width n

/-- The digits of a number, the most significant one not zero. -/
def digits (n : Nat) : List Char :=
  if n < 10 then [digit n] else digits (n / 10) ++ [digit (n % 10)]

/-- The text of a natural number. -/
def nat (n : Nat) : String :=
  String.ofList (digits n)

/-- The text of an integer. -/
def int : Int → String
  | .ofNat n => nat n
  | .negSucc n => String.ofList ('-' :: digits (n + 1))

/-- The number that at least one digit spells. -/
def digits? (text : List Char) : Option Nat := do
  let values ← text.mapM value?
  if values.isEmpty then none else some (values.foldl (fun n d => 10 * n + d) 0)

/-- The number that digits spell, with or without a plus sign in front. -/
def unsigned? : List Char → Option Nat
  | '+' :: text => digits? text
  | text => digits? text

/-- The number that digits spell, with or without a sign in front. -/
def signed? : List Char → Option Int
  | '-' :: text => (digits? text).map fun n => -(n : Int)
  | text => (unsigned? text).map Int.ofNat

end LedgerExport.Decimal
