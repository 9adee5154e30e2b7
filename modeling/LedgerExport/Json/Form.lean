import LedgerExport.Bytes.HashText
import LedgerExport.Json.Basic

/-!
# Forms of values as JSON

A form says how a value is written as JSON and which JSON is read as a value.
A structure is an object of its fields, or an array of them in order; members of
other names are passed over. A value with a kind is an object of a `type` and,
where the kind carries something, a `value`.

## Implementation notes

`absent` is what a member that is left out stands for: nothing, except for an
option. It is never left out in writing. A form reads a value that is there as a
tree, with any number of levels. A reader of texts that allows for a limited number
of levels gives no tree for a text that goes deeper, so no form gets to see it.
-/

namespace LedgerExport

/-- How a value is written and read as JSON. -/
structure Form (α : Type) where
  write : α → Json
  read : Json → Option α
  absent : Option α

namespace Form

variable {σ α β : Type}

/-! ## Leaves -/

def text : Form String where
  write := .str
  read
    | .str s => some s
    | _ => none
  absent := none

def bool : Form Bool where
  write := .bool
  read
    | .bool b => some b
    | _ => none
  absent := none

/-- The integers from `low` to `high`. -/
def integer (low high : Int) (toInt : α → Int) (ofInt : Int → α) : Form α where
  write a := .int (toInt a)
  read
    | .int n => if low ≤ n ∧ n ≤ high then some (ofInt n) else none
    | _ => none
  absent := none

def uint8 : Form UInt8 :=
  integer 0 0xFF (fun n => n.toNat) fun n => UInt8.ofNat n.toNat

def uint32 : Form UInt32 :=
  integer 0 0xFFFFFFFF (fun n => n.toNat) fun n => UInt32.ofNat n.toNat

def uint64 : Form UInt64 :=
  integer 0 0xFFFFFFFFFFFFFFFF (fun n => n.toNat) fun n => UInt64.ofNat n.toNat

def int32 : Form Int32 :=
  integer (-0x80000000) 0x7FFFFFFF Int32.toInt Int32.ofInt

def int64 : Form Int64 :=
  integer (-0x8000000000000000) 0x7FFFFFFFFFFFFFFF Int64.toInt Int64.ofInt

/-- A text that spells a value. -/
def spelled (write : α → String) (read : String → Option α) : Form α where
  write a := .str (write a)
  read
    | .str s => read s
    | _ => none
  absent := none

/-- Hashes are written as lowercase digits and read in either case. -/
def hash : Form Hash :=
  spelled Hash.text fun text => (Hash.parse text).toOption

/-! ## Options and lists -/

/-- Nothing is written as null, and a member left out is nothing. -/
def option (form : Form α) : Form (Option α) where
  write
    | none => .null
    | some a => form.write a
  read
    | .null => some none
    | json => (form.read json).map some
  absent := some none

def list (form : Form α) : Form (List α) where
  write items := .arr (items.map form.write)
  read
    | .arr items => items.mapM form.read
    | _ => none
  absent := none

/-! ## Structures -/

/-- Some fields of a structure `σ`, from which an `α` is built. -/
structure Fields (σ α : Type) where
  write : σ → List (String × Json)
  readNamed : (String → Option Json) → Option α
  readPlaced : List Json → Option (α × List Json)

namespace Fields

/-- No field yet. -/
def make (value : α) : Fields σ α where
  write _ := []
  readNamed _ := some value
  readPlaced items := some (value, items)

/-- One more field, of a name. -/
def field (before : Fields σ (α → β)) (name : String) (form : Form α) (part : σ → α) :
    Fields σ β where
  write s := before.write s ++ [(name, form.write (part s))]
  readNamed find := do
    let build ← before.readNamed find
    match find name with
    | some json => build <$> form.read json
    | none => build <$> form.absent
  readPlaced items := do
    let (build, rest) ← before.readPlaced items
    match rest with
    | json :: rest => return (build (← form.read json), rest)
    | [] => none

end Fields

/-- A structure as an object; an array of exactly its fields is read as well. -/
def record (fields : Fields α α) : Form α where
  write a := .obj (fields.write a)
  read
    | .obj members => fields.readNamed (Json.find? members)
    | .arr items =>
      match fields.readPlaced items with
      | some (a, []) => some a
      | _ => none
    | _ => none
  absent := none

/-! ## Values with a kind -/

/-- What stands behind a kind: the member `value`, which may be missing. -/
structure Content (α : Type) where
  write : α → Option Json
  read : Option Json → Option α

/-- Nothing stands behind the kind. -/
def unit : Content Unit where
  write _ := none
  read
    | none => some ()
    | some .null => some ()
    | some _ => none

/-- One value stands behind the kind. -/
def value (form : Form α) : Content α where
  write a := some (form.write a)
  read
    | none => form.absent
    | some json => form.read json

/-- Named fields stand behind the kind, always as an object. -/
def named (fields : Fields α α) : Content α where
  write a := some (.obj (fields.write a))
  read
    | some (.obj members) => fields.readNamed (Json.find? members)
    | _ => none

/-- A reader of what stands behind a kind, and what is made of it. -/
def Content.into (content : Content α) (build : α → β) (json : Option Json) : Option β :=
  (content.read json).map build

/-- A value by its kind and what stands behind it. -/
structure Arm where
  kind : String
  {payloadType : Type}
  content : Content payloadType
  payload : payloadType

/-- The name that stands for one of several; an object of the name and null is read as well. -/
def name? : Json → Option String
  | .str name => some name
  | .obj [(name, .null)] => some name
  | _ => none

/-- A value with a kind as an object; an array of kind and value is read as well. -/
def tagged (view : α → Arm) (read : String → Option Json → Option α) : Form α where
  write a :=
    let arm := view a
    match arm.content.write arm.payload with
    | none => .obj [("type", .str arm.kind)]
    | some json => .obj [("type", .str arm.kind), ("value", json)]
  read
    | .obj members => do
      let kind ← (Json.find? members "type").bind name?
      read kind (Json.find? members "value")
    | .arr [kind, json] => (name? kind).bind fun kind => read kind (some json)
    | _ => none
  absent := none

/-- One name for each of the listed values. -/
def enumeration (members : List α) (name : α → String) : Form α where
  write a := .str (name a)
  read json := (name? json).bind fun s => members.find? (name · = s)
  absent := none

/-! ## Recursive types -/

/-- A form worked out when it is used. -/
def delay (form : Unit → Form α) : Form α where
  write a := (form ()).write a
  read json := (form ()).read json
  absent := none

/-- The form of no value. -/
def nothing : Form α where
  write _ := .null
  read _ := none
  absent := none

/-- A shape applied to itself a number of times. -/
def unroll (shape : Form α → Form α) : Nat → Form α
  | 0 => nothing
  | levels + 1 => delay fun _ => shape (unroll shape levels)

/-- The form of a recursive type, given the number of levels of a value. -/
def recursive (shape : Form α → Form α) (depth : α → Nat) : Form α where
  write a := (unroll shape (depth a)).write a
  read json := (unroll shape json.depth).read json
  absent := none

end Form

end LedgerExport
