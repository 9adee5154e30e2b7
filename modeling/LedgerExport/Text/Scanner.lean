/-!
# Scanning text

A scanner takes something from the front of a text, or fails and leaves the text
as it was.

## Implementation notes

A repetition stops where nothing is taken any more, so it ends whatever it
repeats.
-/

namespace LedgerExport

/-- Reads a value from the front of a text. -/
abbrev Scanner (α : Type) := StateT (List Char) Option α

namespace Scanner

variable {α β : Type}

/-- The next character, if it is of a class. -/
def satisfying (accepts : Char → Bool) : Scanner Char
  | c :: rest => if accepts c then some (c, rest) else none
  | [] => none

/-- One given character. -/
def char (c : Char) : Scanner Unit
  | d :: rest => if c = d then some ((), rest) else none
  | [] => none

/-- Given characters in a row. -/
def word : List Char → Scanner Unit
  | [], text => some ((), text)
  | c :: more, d :: text => if c = d then word more text else none
  | _ :: _, [] => none

/-- The end of the text. -/
def finish : Scanner Unit
  | [] => some ((), [])
  | _ :: _ => none

/-- The characters of a class at the front of the text, as many as there are. -/
def spanning (accepts : Char → Bool) : Scanner (List Char) :=
  fun text => some (text.takeWhile accepts, text.dropWhile accepts)

/-- What `scanner` reads, or nothing. -/
def optional (scanner : Scanner α) : Scanner (Option α) :=
  (some <$> scanner) <|> pure none

/-- What `scanner` reads, as often as it reads something. -/
def manyFrom (scanner : Scanner α) (text : List Char) : List α × List Char :=
  match scanner text with
  | none => ([], text)
  | some (a, rest) =>
    if rest.length < text.length then
      let (more, after) := manyFrom scanner rest
      (a :: more, after)
    else ([], text)
termination_by text.length

@[inherit_doc manyFrom]
def many (scanner : Scanner α) : Scanner (List α) :=
  fun text => some (manyFrom scanner text)

/-- What `scanner` reads at least once. -/
def many1 (scanner : Scanner α) : Scanner (List α) := do
  return (← scanner) :: (← many scanner)

/-- What `scanner` reads at least once, with `separator` between. -/
def separated1 (separator : Scanner β) (scanner : Scanner α) : Scanner (List α) := do
  return (← scanner) :: (← many (separator *> scanner))

/-- What `scanner` reads, with `separator` between. -/
def separated (separator : Scanner β) (scanner : Scanner α) : Scanner (List α) :=
  separated1 separator scanner <|> pure []

/-- What `scanner` reads a given number of times. -/
def times (scanner : Scanner α) : Nat → Scanner (List α)
  | 0 => pure []
  | n + 1 => do return (← scanner) :: (← times scanner n)

/-- The characters that `scanner` takes. -/
def taken (scanner : Scanner α) : Scanner (List Char) :=
  fun text =>
    match scanner text with
    | some (_, rest) => some (text.take (text.length - rest.length), rest)
    | none => none

/-- What `scanner` reads, if it is acceptable. -/
def filtered (scanner : Scanner α) (accepts : α → Bool) : Scanner α := do
  let a ← scanner
  if accepts a then return a else failure

/-- The value that a scanner reads from a whole text. -/
def whole? (scanner : Scanner α) (text : List Char) : Option α :=
  match scanner text with
  | some (a, []) => some a
  | _ => none

end Scanner

end LedgerExport
