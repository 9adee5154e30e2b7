import LedgerExport.Bytes.Hex
import LedgerExport.Text.Scanner

/-!
# Texts and keys of TOML

Texts stand between quotation marks, where a backslash starts an escape, or
between apostrophes, where nothing does. Three marks in a row open a text of
several lines, and one or two of the marks may stand within it.

## Implementation notes

A line end is read as a line feed, and so it stands in a text of several lines.
A key has fewer parts than the limit on levels.
-/

namespace LedgerExport.Toml

open Scanner

/-- The limit on the levels of a value and on the parts of a key. -/
def maxLevels : Nat := 79

/-! ## Blanks and lines -/

/-- Whether a character may separate words. -/
def isSpace (c : Char) : Bool :=
  c == ' ' || c == '\t'

/-- Whether a character may stand in a comment, and in a text if it is no mark there. -/
def isPlain (c : Char) : Bool :=
  c == '\t' || (32 ≤ c.toNat && c.toNat != 127)

/-- Blanks, or nothing. -/
def blanks : Scanner Unit := do
  let _ ← spanning isSpace

/-- The end of a line. -/
def newline : Scanner Unit :=
  char '\n' <|> word ['\r', '\n']

/-- A comment up to the end of its line. -/
def comment : Scanner Unit := do
  char '#'
  let _ ← spanning isPlain

/-- What may follow the last word of a line, and the end of the line or of the text. -/
def lineEnd : Scanner Unit := do
  blanks
  let _ ← Scanner.optional comment
  newline <|> finish

/-- Blanks, line ends and comments between the items of an array. -/
def gaps : Scanner Unit := do
  let _ ← many ((do let _ ← satisfying isSpace) <|> newline <|> (comment *> newline))

/-! ## Texts -/

/-- The quotation mark. -/
def quote : Char := '\x22'

/-- The apostrophe. -/
def apostrophe : Char := '\x27'

/-- A hexadecimal digit of either case. -/
def hexDigit : Scanner Nat := do
  let c ← satisfying fun c => c.toNat < 128 && (Hex.value? (UInt8.ofNat c.toNat)).isSome
  return (Hex.value? (UInt8.ofNat c.toNat)).getD 0

/-- The character that a number of hexadecimal digits names. -/
def numbered (digits : Nat) : Scanner Char := do
  let values ← times hexDigit digits
  let n := values.foldl (fun n d => 16 * n + d) 0
  if n.isValidChar then return Char.ofNat n else failure

/-- The character that an escape stands for, after the backslash. -/
def escaped : Scanner Char := do
  let c ← satisfying fun _ => true
  if c = 'b' then return '\x08'
  else if c = 't' then return '\t'
  else if c = 'n' then return '\n'
  else if c = 'f' then return '\x0c'
  else if c = 'r' then return '\r'
  else if c = quote ∨ c = '\x5c' then return c
  else if c = 'u' then numbered 4
  else if c = 'U' then numbered 8
  else failure

/-- An escape. -/
def escape : Scanner Char :=
  char '\x5c' *> escaped

/-- A text on one line in quotation marks. -/
def basicText : Scanner (List Char) := do
  char quote
  let text ← many (satisfying (fun c => isPlain c && c != quote && c != '\x5c') <|> escape)
  char quote
  return text

/-- A text on one line in apostrophes. -/
def literalText : Scanner (List Char) := do
  char apostrophe
  let text ← spanning fun c => isPlain c && c != apostrophe
  char apostrophe
  return text

/-- One or two marks with something else behind them. -/
def innerMarks (mark : Char) : Scanner (List Char)
  | a :: b :: rest@(c :: _) =>
    if a = mark ∧ b = mark ∧ c ≠ mark then some ([mark, mark], rest)
    else if a = mark ∧ b ≠ mark then some ([mark], b :: rest)
    else none
  | [a, b] => if a = mark ∧ b ≠ mark then some ([mark], [b]) else none
  | _ => none

/-- Three marks, with at most two more before them that belong to the text. -/
def closingMarks (mark : Char) : Scanner (List Char) := do
  let extra ← (word (List.replicate 5 mark) *> pure [mark, mark])
    <|> (word (List.replicate 4 mark) *> pure [mark])
    <|> (word (List.replicate 3 mark) *> pure [])
  return extra

/-- The piece of a text between three marks that has one mark kind and given plain pieces. -/
def longText (mark : Char) (piece : Scanner (List Char)) : Scanner (List Char) := do
  word (List.replicate 3 mark)
  let _ ← Scanner.optional newline
  let pieces ← many (piece <|> innerMarks mark)
  let extra ← closingMarks mark
  return pieces.flatten ++ extra

/-- A line end that is read as a line feed. -/
def lineFeed : Scanner (List Char) := do
  newline
  return ['\n']

/-- A backslash at the end of a line, and all blanks and line ends after it. -/
def continuation : Scanner (List Char) := do
  char '\x5c'
  blanks
  newline
  let _ ← many ((do let _ ← satisfying isSpace) <|> newline)
  return []

/-- A text of several lines in quotation marks. -/
def longBasicText : Scanner (List Char) :=
  longText quote <|
    ((fun c => [c]) <$> satisfying fun c => isPlain c && c != quote && c != '\x5c')
      <|> lineFeed <|> continuation <|> ((fun c => [c]) <$> escape)

/-- A text of several lines in apostrophes. -/
def longLiteralText : Scanner (List Char) :=
  longText apostrophe <|
    ((fun c => [c]) <$> satisfying fun c => isPlain c && c != apostrophe) <|> lineFeed

/-- A text of any kind. -/
def anyText : Scanner (List Char) :=
  longBasicText <|> basicText <|> longLiteralText <|> literalText

/-! ## Keys -/

/-- Whether a character may stand in a key without marks. -/
def isBare (c : Char) : Bool :=
  c.isAlphanum || c == '-' || c == '_'

/-- One part of a key. -/
def simpleKey : Scanner String :=
  String.ofList <$> (basicText <|> literalText <|> many1 (satisfying isBare))

/-- A key, its parts in order. -/
def key : Scanner (List String) :=
  filtered (separated1 (char '.') (blanks *> simpleKey <* blanks)) (·.length ≤ maxLevels)

end LedgerExport.Toml
