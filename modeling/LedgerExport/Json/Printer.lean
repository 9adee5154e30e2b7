import LedgerExport.Bytes.Hex
import LedgerExport.Json.Basic

/-!
# Printing JSON

A document is printed on one line without blanks, or with every item and member
on a line of its own, two spaces deeper than what holds it.

## Implementation notes

The printer puts characters in front of the characters that follow. The two ways
to print differ in the blanks between the parts of a document alone.
-/

namespace LedgerExport.Json

/-! ## Blanks -/

/-- What stands between the parts of a document: in front of an item, a member or a closing bracket
at some depth, and between a name and its value. -/
structure Spacing where
  line : Nat → List Char
  colon : List Char
  blank_of_mem_line : ∀ depth, ∀ c ∈ line depth, c = ' ' ∨ c = '\n'

/-- No blanks. -/
def Spacing.tight : Spacing where
  line _ := []
  colon := [':']
  blank_of_mem_line _ _ h := nomatch h

/-- A new line for each part, and a blank in front of a value. -/
def Spacing.lines : Spacing where
  line depth := '\n' :: List.replicate (2 * depth) ' '
  colon := [':', ' ']
  blank_of_mem_line _ _ h :=
    (List.mem_cons.mp h).elim .inr fun h => .inl (List.eq_of_mem_replicate h)

/-! ## Leaves -/

/-- A character of a text as it stands between quotation marks. -/
def escape (c : Char) : List Char :=
  if c = '\x22' ∨ c = '\x5c' then ['\x5c', c]
  else if c = '\n' then ['\x5c', 'n']
  else if c = '\r' then ['\x5c', 'r']
  else if c = '\t' then ['\x5c', 't']
  else if c = '\x08' then ['\x5c', 'b']
  else if c = '\x0c' then ['\x5c', 'f']
  else if c.toNat < 32 then
    ['\x5c', 'u', '0', '0', Hex.digit (c.toNat / 16), Hex.digit (c.toNat % 16)]
  else [c]

/-- A text in quotation marks. -/
def printText (text : String) (rest : List Char) : List Char :=
  '\x22' :: text.toList.foldr (fun c after => escape c ++ after) ('\x22' :: rest)

/-- A value that holds no other. -/
def printLeaf : Json → List Char → List Char
  | .null, rest => "null".toList ++ rest
  | .bool true, rest => "true".toList ++ rest
  | .bool false, rest => "false".toList ++ rest
  | .int n, rest => (Decimal.int n).toList ++ rest
  | .decimal number, rest => number.text.toList ++ rest
  | .str text, rest => printText text rest
  | .arr _, rest => '[' :: ']' :: rest
  | .obj _, rest => '\x7b' :: '\x7d' :: rest

/-! ## Values -/

mutual

/-- A value, itself at `depth`. -/
def print (spacing : Spacing) (depth : Nat) : Json → List Char → List Char
  | .arr (item :: items), rest =>
    '[' :: (spacing.line (depth + 1) ++ print spacing (depth + 1) item
      (printItems spacing (depth + 1) items (spacing.line depth ++ ']' :: rest)))
  | .obj ((name, value) :: members), rest =>
    '\x7b' :: (spacing.line (depth + 1) ++ printText name
      (spacing.colon ++ print spacing (depth + 1) value
        (printMembers spacing (depth + 1) members (spacing.line depth ++ '\x7d' :: rest))))
  | leaf, rest => printLeaf leaf rest

/-- Further items at `depth`, a comma before each. -/
def printItems (spacing : Spacing) (depth : Nat) : List Json → List Char → List Char
  | [], rest => rest
  | item :: items, rest =>
    ',' :: (spacing.line depth ++ print spacing depth item (printItems spacing depth items rest))

/-- Further members at `depth`, a comma before each. -/
def printMembers (spacing : Spacing) (depth : Nat) :
    List (String × Json) → List Char → List Char
  | [], rest => rest
  | (name, value) :: members, rest =>
    ',' :: (spacing.line depth ++ printText name
      (spacing.colon ++ print spacing depth value (printMembers spacing depth members rest)))

end

/-- The text of a value. -/
def text (spacing : Spacing) (value : Json) : String :=
  String.ofList (print spacing 0 value [])

/-- The text of a value on one line. -/
def compact : Json → String :=
  text .tight

/-- The text of a value over several lines. -/
def pretty : Json → String :=
  text .lines

end LedgerExport.Json
