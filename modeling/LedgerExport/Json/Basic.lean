import LedgerExport.Text.Decimal

/-!
# JSON values

An object keeps its members in order, so that the order in which a document is
printed is part of its value. Numbers are integers, or the text of a number
that is none.
-/

namespace LedgerExport

/-- A character of a number. -/
def Json.inNumber (c : Char) : Bool :=
  (Decimal.value? c).isSome || ['-', '+', '.', 'e', 'E'].contains c

/-- The text of a number that is no integer. -/
@[ext] structure Json.Fraction where
  text : String
  text_ne_empty : text ≠ ""
  all_inNumber : text.toList.all Json.inNumber = true
  signed?_text : Decimal.signed? text.toList = none

/-- A JSON value. -/
inductive Json
  | null
  | bool (value : Bool)
  | int (value : Int)
  | decimal (number : Json.Fraction)
  | str (text : String)
  | arr (items : List Json)
  | obj (members : List (String × Json))
deriving Inhabited

namespace Json

mutual

/-- The number of levels of a value. -/
def depth : Json → Nat
  | .arr items => depthAll items + 1
  | .obj members => depthMembers members + 1
  | _ => 1

/-- The greatest number of levels of some values. -/
def depthAll : List Json → Nat
  | [] => 0
  | item :: items => max (depth item) (depthAll items)

/-- The greatest number of levels of the values of some members. -/
def depthMembers : List (String × Json) → Nat
  | [] => 0
  | (_, value) :: members => max (depth value) (depthMembers members)

end

/-- The value of the first member of a name. -/
def find? (members : List (String × Json)) (name : String) : Option Json :=
  (members.find? (·.1 = name)).map (·.2)

end Json

end LedgerExport
