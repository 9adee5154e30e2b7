import LedgerExport.Toml.Number

/-!
# TOML documents

A document is a sequence of lines: headers, keys with values, and lines that say
nothing. The keys under a header belong to its table, and those in front of the
first header to the document itself. No key may be given twice, nor may a table
be opened twice.

## Implementation notes

Values nest within a limit, and reading counts down from it.
-/

namespace LedgerExport.Toml

open Scanner

/-- A key and its value; the last part of the key is the name. -/
def pair (value : Scanner Value) : Scanner Pair := do
  let path ← key
  char '='
  blanks
  let value ← value
  return ⟨path.dropLast, path.getLastD "", value⟩

/-- An array of values. -/
def array (value : Scanner Value) : Scanner Value := do
  char '['
  let items ← separated (char ',') (gaps *> value <* gaps)
  unless items.isEmpty do
    let _ ← Scanner.optional (char ',')
  gaps
  char ']'
  return .array items

/-- A table in braces. -/
def inlineTable (value : Scanner Value) : Scanner Value := do
  char '\x7b'
  let pairs ← separated (char ',') (pair value <* blanks)
  blanks
  char '\x7d'
  match Members.addPairs [] pairs with
  | some members => return .table .inline members
  | none => failure

/-- A value of at most the given number of levels of arrays and tables. -/
def value : Nat → Scanner Value
  | 0 => scalar
  | levels + 1 => array (value levels) <|> inlineTable (value levels) <|> scalar

/-- A line of a document. -/
inductive Line
  | nothing
  | header (path : List String) (listed : Bool)
  | pair (pair : Pair)

/-- A line and its end. -/
def line : Scanner Line := do
  blanks
  (do newline; return .nothing)
    <|> (do comment; newline <|> finish; return .nothing)
    <|> (do word ['[', '[']; let path ← key; word [']', ']']; lineEnd; return .header path true)
    <|> (do char '['; let path ← key; char ']'; lineEnd; return .header path false)
    <|> (do let p ← pair (value maxLevels); lineEnd; return .pair p)

/-- The lines of a document. -/
def lines : Scanner (List Line) := do
  let _ ← Scanner.optional (char '\ufeff')
  let found ← many line
  blanks
  return found

/-- The keys in front of the first header, and the sections. -/
def blocks : List Line → List Pair × List Section
  | [] => ([], [])
  | .nothing :: more => blocks more
  | .pair p :: more =>
    let (pairs, sections) := blocks more
    (p :: pairs, sections)
  | .header path listed :: more =>
    let (pairs, sections) := blocks more
    ([], ⟨path.dropLast, path.getLastD "", listed, pairs⟩ :: sections)

/-- The members of the document that lines make. -/
def assemble (found : List Line) : Option Members := do
  let (pairs, sections) := blocks found
  let root ← Members.addPairs [] pairs
  sections.foldlM (fun members block => Members.addSection members block) root

/-- Reads a document. -/
def parse (text : String) : Option Members :=
  (whole? lines text.toList).bind assemble

end LedgerExport.Toml
