/-!
# TOML values

A document is a table of values. A table remembers how it came to be, since that
decides whether a later line may still add to it: a header adds to any table
that is not written out in braces, and a dotted key to none that has a header.

## Implementation notes

Floats and dates are kept as their text. Tables that double brackets list are
told apart from an array, which is closed.
-/

namespace LedgerExport.Toml

/-- How a table came to be. -/
inductive Origin
  | header
  | implied
  | dotted
  | inline
deriving DecidableEq

/-- A value. -/
inductive Value
  | text (text : String)
  | bool (value : Bool)
  | integer (value : Int)
  | float (text : String)
  | date (text : String)
  | array (items : List Value)
  | table (origin : Origin) (members : List (String × Value))
  | tables (items : List (List (String × Value)))
deriving Inhabited

/-- The members of a table in the order in which they came. -/
abbrev Members := List (String × Value)

/-- The two ways in which a line names a table. -/
inductive Way
  | header
  | dotted
deriving DecidableEq

/-- Whether a line may enter a table. -/
def Origin.admits : Origin → Way → Bool
  | .inline, _ => false
  | .header, .dotted => false
  | _, _ => true

/-- The origin of a table that a line names in passing. -/
def Way.origin : Way → Origin
  | .header => .implied
  | .dotted => .dotted

namespace Members

/-- The value of a name. -/
def get? (members : Members) (name : String) : Option Value :=
  (List.find? (·.1 = name) members).map (·.2)

/-- The members with another value for a name, at its old place if there was one. -/
def set (members : Members) (name : String) (value : Value) : Members :=
  match members with
  | [] => [(name, value)]
  | (other, old) :: more =>
    if other = name then (name, value) :: more else (other, old) :: set more name value

/-- Replaces what a name has, which may be nothing. -/
def change (name : String) (f : Option Value → Option Value) (members : Members) :
    Option Members :=
  (f (get? members name)).map fun value => set members name value

/-- Changes the table at the end of a path; tables that are missing on it are made. -/
def within (way : Way) (f : Origin → Members → Option Members) :
    List String → Origin → Members → Option Members
  | [], origin, members => f origin members
  | name :: path, _, members =>
    members |> change name fun
      | none => (within way f path way.origin []).map (.table way.origin)
      | some (.table origin inner) =>
        if origin.admits way then (within way f path origin inner).map (.table origin) else none
      | some (.tables items) =>
        match items.getLast? with
        | some last =>
          (within way f path .header last).map fun new => .tables (items.dropLast ++ [new])
        | none => none
      | some _ => none

/-- A new member; a name that is taken is refused. -/
def add (name : String) (value : Value) (members : Members) : Option Members :=
  members |> change name fun
    | none => some value
    | some _ => none

/-- The member of a dotted key; the table that gets it has to be made by dotted keys too. -/
def addAt (path : List String) (name : String) (value : Value) (members : Members) :
    Option Members :=
  within .dotted
    (fun origin inner => if path ≠ [] ∧ origin ≠ .dotted then none else add name value inner)
    path .header members

end Members

/-- A line that gives a value to a key. -/
structure Pair where
  path : List String
  name : String
  value : Value

namespace Members

/-- Members and those of some lines after them. -/
def addPairs (members : Members) (pairs : List Pair) : Option Members :=
  pairs.foldlM (fun members pair => addAt pair.path pair.name pair.value members) members

end Members

/-- A header and the lines under it. -/
structure Section where
  path : List String
  name : String
  listed : Bool
  pairs : List Pair

namespace Members

/-- The table that a header opens, filled with the lines under it. -/
def opened (block : Section) : Option Value → Option Value
  | none =>
    (addPairs [] block.pairs).map fun members =>
      if block.listed then .tables [members] else .table .header members
  | some (.table .implied members) =>
    if block.listed then none else (addPairs members block.pairs).map (.table .header)
  | some (.tables items) =>
    if block.listed then
      (addPairs [] block.pairs).map fun members => .tables (items ++ [members])
    else none
  | some _ => none

/-- Members and those of a section after them. -/
def addSection (members : Members) (block : Section) : Option Members :=
  within .header (fun _ inner => change block.name (opened block) inner) block.path .header members

end Members

end LedgerExport.Toml
