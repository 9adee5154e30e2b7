import LedgerExport.Text.Printable

/-!
# Quoted text

Texts are shown in messages between quotation marks, with a backslash before
the mark and the backslash, short names for common controls, and the number of
any other character that does not show.
-/

namespace LedgerExport.Quoted

/-- The lowercase hexadecimal digits of a number, without leading zeros. -/
def hexDigits (n : Nat) : List Char :=
  Nat.toDigits 16 n

/-- One character inside the quotation mark `mark`. -/
def escape (mark c : Char) : List Char :=
  if c = mark ∨ c = '\x5c' then ['\x5c', c]
  else if c = '\n' then ['\x5c', 'n']
  else if c = '\r' then ['\x5c', 'r']
  else if c = '\t' then ['\x5c', 't']
  else if c = '\x00' then ['\x5c', '0']
  else if Printable.shows c then [c]
  else '\x5c' :: 'u' :: '\x7b' :: (hexDigits c.toNat ++ ['\x7d'])

/-- A text in double quotation marks. -/
def text (s : String) : String :=
  String.ofList ('\x22' :: (s.toList.flatMap (escape '\x22') ++ ['\x22']))

/-- A character in single quotation marks. -/
def char (c : Char) : String :=
  String.ofList ('\x27' :: (escape '\x27' c ++ ['\x27']))

end LedgerExport.Quoted
