import LedgerExport.Json.Form
import LedgerExport.Proofs.Bytes.RoundTrip
import Mathlib.Data.List.Nodup

/-!
# Values are read back from their JSON

A form is faithful if it reads back what it writes of every value. Structures are,
if their fields are and have different names; values with a kind, if the kind
leads to a reader of what stands behind it; recursive types, if their shapes are.

## Implementation notes

The laws speak of one value, which one form writes and another one reads: a value of
a recursive type is written with as many levels as it has and read with as many as
its JSON has. The classes say the same of all values, so that the forms of fields
and payloads are found by their names. Null stands for nothing in an option, so the
form of what is there must not read it.
-/

namespace LedgerExport

/-! ## Members and levels -/

namespace Json

variable {members : List (String × Json)}

/-- With different names, every member is found by its name. -/
theorem find?_of_mem (hnames : (members.map (·.1)).Nodup) {m : String × Json}
    (hm : m ∈ members) : find? members m.1 = some m.2 := by
  induction members with
  | nil => cases hm
  | cons first members ih =>
      obtain ⟨hfirst, hnames⟩ := List.nodup_cons.mp hnames
      rw [find?, List.find?_cons]
      rcases List.mem_cons.mp hm with rfl | hm
      · simp
      · have hne : first.1 ≠ m.1 := fun h => hfirst (List.mem_map.mpr ⟨m, hm, h.symm⟩)
        rw [decide_eq_false hne]
        exact ih hnames hm

theorem depth_pos (json : Json) : 0 < json.depth := by
  cases json <;> exact Nat.succ_pos _

theorem depth_lt_depth_obj {m : String × Json} (h : m ∈ members) :
    m.2.depth < (obj members).depth := by
  rw [depth, Nat.lt_succ_iff]
  induction members with
  | nil => cases h
  | cons first members ih =>
      rw [depthMembers]
      rcases List.mem_cons.mp h with rfl | h
      · exact Nat.le_max_left _ _
      · exact (ih h).trans (Nat.le_max_right _ _)

end Json

namespace Form

variable {σ α β : Type}

/-! ## One value -/

/-- One form reads back what another one writes of a value. -/
def ReadBy (writer reader : Form α) (a : α) : Prop :=
  reader.read (writer.write a) = some a

/-- Nothing is told from a value if no value is read from null. -/
theorem ReadBy.option {form form' : Form α} {value : Option α}
    (h : ∀ a ∈ value, form.ReadBy form' a) (hnull : form'.read .null = none) :
    (option form).ReadBy (option form') value := by
  cases value with
  | none => rfl
  | some a =>
      have hread : form'.read (form.write a) = some a := h a rfl
      show (Form.option form').read (form.write a) = some (some a)
      cases hjson : form.write a with
      | null =>
          rw [hjson, hnull] at hread
          cases hread
      | _ =>
          rw [hjson] at hread
          exact congrArg (Option.map some) hread

theorem ReadBy.list {form form' : Form α} {items : List α}
    (h : ∀ a ∈ items, form.ReadBy form' a) : (list form).ReadBy (list form') items := by
  show (items.map form.write).mapM form'.read = some items
  induction items with
  | nil => rfl
  | cons a items ih =>
      have hfirst : form'.read (form.write a) = some a := h a List.mem_cons_self
      rw [List.map_cons, List.mapM_cons, hfirst,
        ih fun b hb => h b (List.mem_cons_of_mem a hb)]
      rfl

/-- The fields of a structure are named, and whoever finds each of them by its name reads back what
is built of them. -/
structure Fields.ReadBy (writer reader : Fields σ α) (names : List String) (s : σ) (a : α) :
    Prop where
  names_eq : (writer.write s).map (·.1) = names
  readNamed {find : String → Option Json} (h : ∀ m ∈ writer.write s, find m.1 = some m.2) :
    reader.readNamed find = some a

namespace Fields

theorem readBy_make {s : σ} (a : α) : (make a).ReadBy (make a) [] s a where
  names_eq := rfl
  readNamed _ := rfl

/-- A field that is there is read by its form. -/
theorem readNamed_field {before : Fields σ (α → β)} {name : String} {form : Form α} {part : σ → α}
    {find : String → Option Json} {build : α → β} {json : Json}
    (hbefore : before.readNamed find = some build) (hname : find name = some json) :
    (before.field name form part).readNamed find = build <$> form.read json := by
  simp only [Fields.field, hbefore, hname, Option.bind_eq_bind, Option.bind_some]

theorem ReadBy.field {before before' : Fields σ (α → β)} {names : List String} {s : σ}
    {build : α → β} {name : String} {form form' : Form α} {part : σ → α}
    (h : before.ReadBy before' names s build) (hform : form.ReadBy form' (part s)) :
    (before.field name form part).ReadBy (before'.field name form' part) (names ++ [name]) s
      (build (part s)) where
  names_eq := by
    show (before.write s ++ [(name, form.write (part s))]).map (·.1) = _
    rw [List.map_append, h.names_eq]
    rfl
  readNamed {find} hfind := by
    have hbefore := h.readNamed fun m hm => hfind m (List.mem_append_left _ hm)
    have hname : find name = some (form.write (part s)) :=
      hfind (name, form.write (part s)) (List.mem_append_right _ (List.mem_singleton_self _))
    have hread : form'.read (form.write (part s)) = some (part s) := hform
    rw [readNamed_field hbefore hname, hread]
    rfl

theorem ReadBy.of_members {fields fields' : Fields σ α} {names : List String} {s : σ} {a : α}
    (h : fields.ReadBy fields' names s a) (hnames : names.Nodup) :
    fields'.readNamed (Json.find? (fields.write s)) = some a :=
  h.readNamed fun _ hm => Json.find?_of_mem (h.names_eq ▸ hnames) hm

end Fields

theorem readBy_record {fields fields' : Fields α α} {names : List String} {a : α}
    (hnames : names.Nodup) (h : fields.ReadBy fields' names a a) :
    (record fields).ReadBy (record fields') a :=
  h.of_members hnames

/-- What stands behind a kind is read back. -/
def Content.ReadBy (writer reader : Content α) (a : α) : Prop :=
  reader.read (writer.write a) = some a

theorem ReadBy.value {form form' : Form α} {a : α} (h : form.ReadBy form' a) :
    (value form).ReadBy (value form') a :=
  h

/-- What stands behind the kind of an arm is read as the value. -/
def Arm.ReadAs (arm : Arm) (read : String → Option Json → Option α) (a : α) : Prop :=
  read arm.kind (arm.content.write arm.payload) = some a

/-- The kind of an arm leads to the reader of its payload. -/
theorem Content.ReadBy.arm {content content' : Content β} {kind : String}
    {read : String → Option Json → Option α} {build : β → α} {payload : β} {a : α}
    (h : content.ReadBy content' payload) (hread : read kind = content'.into build)
    (ha : build payload = a) : Arm.ReadAs ⟨kind, content, payload⟩ read a := by
  show read kind (content.write payload) = some a
  have hpayload : content'.read (content.write payload) = some payload := h
  rw [hread, Content.into, hpayload, Option.map_some, ha]

section Tagged

variable {view : α → Arm} {read : String → Option Json → Option α} {a : α}

theorem write_tagged_of_none (h : (view a).content.write (view a).payload = none) :
    (tagged view read).write a = .obj [("type", .str (view a).kind)] := by
  simp only [tagged, h]

theorem write_tagged_of_some {json : Json}
    (h : (view a).content.write (view a).payload = some json) :
    (tagged view read).write a = .obj [("type", .str (view a).kind), ("value", json)] := by
  simp only [tagged, h]

end Tagged

theorem readBy_tagged {view view' : α → Arm} {read read' : String → Option Json → Option α}
    {a : α} (h : (view a).ReadAs read' a) : (tagged view read).ReadBy (tagged view' read') a := by
  have hread : read' (view a).kind ((view a).content.write (view a).payload) = some a := h
  rw [ReadBy]
  cases hcontent : (view a).content.write (view a).payload with
  | none =>
      rw [hcontent] at hread
      rw [write_tagged_of_none hcontent]
      exact hread
  | some json =>
      rw [hcontent] at hread
      rw [write_tagged_of_some hcontent]
      exact hread

/-! ## All values -/

/-- A form reads back what it writes of every value. -/
class Faithful (form : Form α) : Prop where
  readBy (a : α) : form.ReadBy form a

/-- A faithful form that reads no value from null. -/
class NonNull (form : Form α) : Prop extends form.Faithful where
  read_null : form.read .null = none

/-- Fields of different parts, from which `result` is built. -/
class Fields.Faithful (fields : Fields σ α) (names : outParam (List String))
    (result : outParam (σ → α)) : Prop where
  readBy (s : σ) : fields.ReadBy fields names s (result s)

/-- What stands behind a kind is read back whatever it is. -/
class Content.Faithful (content : Content α) : Prop where
  readBy (a : α) : content.ReadBy content a

/-! ### Leaves -/

instance nonNull_text : text.NonNull where
  readBy _ := rfl
  read_null := rfl

instance nonNull_bool : bool.NonNull where
  readBy _ := rfl
  read_null := rfl

theorem nonNull_integer {low high : Int} {toInt : α → Int} {ofInt : Int → α}
    (hrange : ∀ a, low ≤ toInt a ∧ toInt a ≤ high) (hof : ∀ a, ofInt (toInt a) = a) :
    (integer low high toInt ofInt).NonNull where
  readBy a := by
    show (if low ≤ toInt a ∧ toInt a ≤ high then some (ofInt (toInt a)) else none) = some a
    rw [if_pos (hrange a), hof]
  read_null := rfl

instance nonNull_uint8 : uint8.NonNull :=
  nonNull_integer (fun n => by have := n.toNat_lt; omega) fun _ => UInt8.ofNat_toNat

instance nonNull_uint32 : uint32.NonNull :=
  nonNull_integer (fun n => by have := n.toNat_lt; omega) fun _ => UInt32.ofNat_toNat

instance nonNull_uint64 : uint64.NonNull :=
  nonNull_integer (fun n => by have := n.toNat_lt; omega) fun _ => UInt64.ofNat_toNat

instance nonNull_int32 : int32.NonNull :=
  nonNull_integer (fun n => ⟨n.le_toInt, Int.le_sub_one_of_lt n.toInt_lt⟩) Int32.ofInt_toInt

instance nonNull_int64 : int64.NonNull :=
  nonNull_integer (fun n => ⟨n.le_toInt, Int.le_sub_one_of_lt n.toInt_lt⟩) Int64.ofInt_toInt

theorem nonNull_spelled {write : α → String} {read : String → Option α}
    (h : ∀ a, read (write a) = some a) : (spelled write read).NonNull where
  readBy := h
  read_null := rfl

instance nonNull_hash : hash.NonNull :=
  nonNull_spelled fun h => by rw [Hash.parse_text]; rfl

/-- Names that tell all values apart. -/
theorem nonNull_enumeration {members : List α} {name : α → String} (hmem : ∀ a, a ∈ members)
    (hname : ∀ a ∈ members, ∀ b ∈ members, name a = name b → a = b) :
    (enumeration members name).NonNull where
  readBy a := by
    show members.find? (fun b => decide (name b = name a)) = some a
    have hfound : (members.find? fun b => decide (name b = name a)).isSome :=
      List.find?_isSome.mpr ⟨a, hmem a, decide_eq_true rfl⟩
    obtain ⟨b, hb⟩ := Option.isSome_iff_exists.mp hfound
    have hsame := List.find?_some (p := fun b => decide (name b = name a)) hb
    rw [hb, hname b (hmem b) a (hmem a) (of_decide_eq_true hsame)]
  read_null := rfl

/-! ### Options, lists and structures -/

instance faithful_option {form : Form α} [form.NonNull] : (option form).Faithful where
  readBy _ := .option (fun a _ => Faithful.readBy a) NonNull.read_null

instance nonNull_list {form : Form α} [form.Faithful] : (list form).NonNull where
  readBy _ := .list fun a _ => Faithful.readBy a
  read_null := rfl

instance Fields.faithful_make {a : α} : (make a : Fields σ α).Faithful [] fun _ => a where
  readBy _ := readBy_make a

section Structures

variable {before : Fields σ (α → β)} {names : List String} {build : σ → α → β} {name : String}
  {form : Form α} {part : σ → α}

instance Fields.faithful_field [before.Faithful names build] [form.Faithful] :
    (before.field name form part).Faithful (names ++ [name]) fun s => build s (part s) where
  readBy s := (Faithful.readBy s).field (Form.Faithful.readBy (part s))

end Structures

section Records

variable {before : Fields σ (α → σ)} {names : List String} {build : σ → α → σ} {name : String}
  {form : Form α} {part : σ → α} [before.Faithful names build] [form.Faithful]

/-- A structure that is built of its own fields. -/
theorem nonNull_record (hnames : (names ++ [name]).Nodup) (hbuild : ∀ s, build s (part s) = s) :
    (record (before.field name form part)).NonNull where
  readBy s := by
    have hfields : (before.field name form part).ReadBy (before.field name form part) _ s _ :=
      Fields.Faithful.readBy s
    rw [hbuild] at hfields
    exact readBy_record hnames hfields
  read_null := rfl

/-- Named parts behind a kind. -/
theorem faithful_named (hnames : (names ++ [name]).Nodup) (hbuild : ∀ s, build s (part s) = s) :
    (named (before.field name form part)).Faithful where
  readBy s := by
    have hfields : (before.field name form part).ReadBy (before.field name form part) _ s _ :=
      Fields.Faithful.readBy s
    rw [hbuild] at hfields
    exact hfields.of_members hnames

end Records

/-! ### Values with a kind -/

instance faithful_unit : unit.Faithful where
  readBy _ := rfl

instance faithful_value {form : Form α} [form.Faithful] : (value form).Faithful where
  readBy a := (Faithful.readBy a).value

/-- The kind of an arm leads to what its payload is read by, whatever the payload. -/
theorem Arm.ReadAs.of_kind {content : Content β} [content.Faithful] {kind : String}
    {read : String → Option Json → Option α} {build : β → α} {payload : β} {a : α}
    (hread : read kind = content.into build) (ha : build payload = a) :
    Arm.ReadAs ⟨kind, content, payload⟩ read a :=
  (Content.Faithful.readBy payload).arm hread ha

theorem nonNull_tagged {view : α → Arm} {read : String → Option Json → Option α}
    (h : ∀ a, (view a).ReadAs read a) : (tagged view read).NonNull where
  readBy a := readBy_tagged (h a)
  read_null := rfl

/-! ## Recursive types -/

/-- A value is read back if every value of fewer levels is and no value is read from null. -/
def FaithfulShape (shape : Form α → Form α) (depth : α → Nat) : Prop :=
  ∀ {part part' : Form α} {a : α}, part'.read .null = none →
    (∀ b, depth b < depth a → part.ReadBy part' b) → (shape part).ReadBy (shape part') a

/-- The JSON of a value has as many levels as the value if that of every smaller one has. -/
def DeepShape (shape : Form α → Form α) (depth : α → Nat) : Prop :=
  ∀ {part : Form α} {a : α}, (∀ b, depth b < depth a → depth b ≤ (part.write b).depth) →
    depth a ≤ ((shape part).write a).depth

/-- The greatest number of levels of some values. -/
structure Greatest (depth : α → Nat) (total : List α → Nat) : Prop where
  nil : total [] = 0
  cons (a : α) (items : List α) : total (a :: items) = max (depth a) (total items)

theorem Greatest.le {depth : α → Nat} {total : List α → Nat} (h : Greatest depth total)
    {items : List α} {a : α} (ha : a ∈ items) : depth a ≤ total items := by
  induction items with
  | nil => cases ha
  | cons first items ih =>
      rw [h.cons]
      rcases List.mem_cons.mp ha with rfl | ha
      · exact Nat.le_max_left _ _
      · exact (ih ha).trans (Nat.le_max_right _ _)

section Recursive

variable {shape : Form α → Form α} {depth : α → Nat}

theorem lt_depth_list {form : Form α} {total : List α → Nat} (htotal : Greatest depth total)
    {items : List α} (h : ∀ a ∈ items, depth a ≤ (form.write a).depth) :
    total items < ((list form).write items).depth := by
  show total items < (Json.arr (items.map form.write)).depth
  rw [Json.depth, Nat.lt_succ_iff]
  induction items with
  | nil => rw [htotal.nil]; exact Nat.zero_le _
  | cons a items ih =>
      rw [htotal.cons, List.map_cons, Json.depthAll]
      exact max_le_max (h a List.mem_cons_self) (ih fun b hb => h b (List.mem_cons_of_mem a hb))

theorem lt_depth_value (kind : String) (json : Json) :
    json.depth < (Json.obj [("type", .str kind), ("value", json)]).depth :=
  Json.depth_lt_depth_obj (m := ("value", json))
    (List.mem_cons_of_mem _ (List.mem_singleton_self _))

theorem read_null_unroll (hnull : ∀ part, (shape part).read .null = none) (levels : Nat) :
    (unroll shape levels).read .null = none := by
  cases levels with
  | zero => rfl
  | succ levels => exact hnull _

/-- More levels read what enough levels write. -/
theorem readBy_unroll (hpos : ∀ a, 0 < depth a) (hshape : FaithfulShape shape depth)
    (hnull : ∀ part, (shape part).read .null = none) {levels levels' : Nat} {a : α}
    (ha : depth a ≤ levels) (h : levels ≤ levels') :
    (unroll shape levels).ReadBy (unroll shape levels') a := by
  induction levels generalizing levels' a with
  | zero => exact absurd (hpos a) (Nat.not_lt.mpr ha)
  | succ levels ih =>
      cases levels' with
      | zero => exact absurd h (Nat.not_succ_le_zero levels)
      | succ levels' =>
          exact hshape (read_null_unroll hnull levels') fun b hb =>
            ih (by omega) (Nat.le_of_succ_le_succ h)

theorem depth_le_unroll (hpos : ∀ a, 0 < depth a) (hdeep : DeepShape shape depth) {levels : Nat}
    {a : α} (ha : depth a ≤ levels) : depth a ≤ ((unroll shape levels).write a).depth := by
  induction levels generalizing a with
  | zero => exact absurd (hpos a) (Nat.not_lt.mpr ha)
  | succ levels ih => exact hdeep fun b hb => ih (by omega)

/-- A recursive type is read back if its shape is and each of its levels is one of its JSON. -/
theorem nonNull_recursive (hpos : ∀ a, 0 < depth a) (hshape : FaithfulShape shape depth)
    (hdeep : DeepShape shape depth) (hnull : ∀ part, (shape part).read .null = none) :
    (recursive shape depth).NonNull where
  readBy _ :=
    readBy_unroll hpos hshape hnull (Nat.le_refl _) (depth_le_unroll hpos hdeep (Nat.le_refl _))
  read_null := hnull nothing

end Recursive

end Form

end LedgerExport
