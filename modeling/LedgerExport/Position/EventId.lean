import LedgerExport.Position.Toid
import LedgerExport.Text.Utf8

/-!
# Identifiers of events

An event is identified by the place of its operation and its own place among
the events of that operation. The text pads both to a fixed number of digits, so
that texts are ordered as the events are.
-/

namespace LedgerExport

/-- The identifier of an event. -/
structure EventId where
  operation : Toid
  order : UInt32
deriving DecidableEq

namespace EventId

/-- Nineteen digits, a hyphen and ten digits. -/
def characters (id : EventId) : List Char :=
  Decimal.fixed 19 id.operation.raw ++ '-' :: Decimal.fixed 10 id.order.toNat

/-- The text of an identifier. -/
def text (id : EventId) : String :=
  String.ofList id.characters

/-- The number of bytes of a text. -/
def width (text : List Char) : Nat :=
  (Utf8.encode text).length

/-- The identifier that two numerals of the right widths spell. -/
def ofNumerals? (operation order : List Char) : Option EventId := do
  let place ← if width operation = 19 then Decimal.unsigned? operation else none
  let number ← if width order = 10 then Decimal.unsigned? order else none
  if h : place < 0x8000000000000000 then
    if number < 0x100000000 then some ⟨⟨place, h⟩, UInt32.ofNat number⟩ else none
  else none

/-- Reads the text of an identifier; either numeral may start with a plus sign. -/
def parse (text : String) : Except Error EventId :=
  let found :=
    match text.toList.dropWhile (· != '-') with
    | [] => none
    | _ :: order => ofNumerals? (text.toList.takeWhile (· != '-')) order
  match found with
  | some id => .ok id
  | none => .error (.eventId text)

/-- The place of the operation decides, then the order. -/
instance : LT EventId :=
  ⟨fun a b => a.operation < b.operation ∨ a.operation = b.operation ∧ a.order < b.order⟩

instance (a b : EventId) : Decidable (a < b) :=
  inferInstanceAs (Decidable (a.operation < b.operation ∨
    a.operation = b.operation ∧ a.order < b.order))

/-- Ascending order; equal identifiers stay side by side. -/
def sort (ids : List EventId) : List EventId :=
  ids.mergeSort fun a b => !decide (b < a)

end EventId

end LedgerExport
