import LedgerExport.Proofs.Xdr.Exact

/-!
# Faithful codecs

A codec is faithful if it reads back every value that fits, whatever follows. So
the encodings of two values that fit are equal only if the values are, and no
encoding starts another one. Each way to put codecs together keeps this.

## Implementation notes

A recursive type is written with as many levels as the value has and read with as
many as there are bytes. So the laws relate a layout that writes to another one that
reads, and a value of so many levels is known to take at least so many bytes.
-/

namespace LedgerExport.Xdr

open Decoder

variable {σ α β : Type}

/-! ## Bytes in front of others -/

/-- A writer puts bytes of its own in front of those that follow. -/
def Prepends (write : Octets → Octets) : Prop :=
  ∀ rest, write rest = write [] ++ rest

namespace Prepends

variable {write write' : Octets → Octets}

theorem comp (h : Prepends write) (h' : Prepends write') :
    Prepends fun rest => write (write' rest) := by
  intro rest
  show write (write' rest) = write (write' []) ++ rest
  rw [h (write' rest), h (write' []), h' rest, List.append_assoc]

theorem length_write (h : Prepends write) (rest : Octets) :
    (write rest).length = (write []).length + rest.length := by
  rw [h rest, List.length_append]

theorem length_le (h : Prepends write) (rest : Octets) : rest.length ≤ (write rest).length := by
  rw [h.length_write rest]
  exact Nat.le_add_left _ _

end Prepends

theorem prepends_nothing : Prepends fun rest => rest :=
  fun _ => rfl

theorem prepends_append (bytes : Octets) : Prepends (bytes ++ ·) := by
  intro rest
  show bytes ++ rest = bytes ++ [] ++ rest
  rw [List.append_nil]

theorem prepends_word (width n : Nat) : Prepends (BigEndian.write width n) :=
  BigEndian.write_eq_append width n

theorem prepends_foldr {write : α → Octets → Octets} (h : ∀ a, Prepends (write a))
    (values : List α) : Prepends (values.foldr write) := by
  induction values with
  | nil => exact prepends_nothing
  | cons a values ih => exact (h a).comp ih

/-! ## The law -/

/-- One layout reads as a result what another one writes, which stands in front of the rest. -/
structure Layout.ReadBy (writer reader : Layout σ α) (result : σ → α) : Prop where
  read_write {part : σ} (hfits : writer.fits part) (rest : Octets) :
    reader.read (writer.write part rest) = .ok (result part, rest)
  prepends (part : σ) : Prepends (writer.write part)

/-- Reading undoes writing for the values that fit. -/
abbrev Codec.Faithful (codec : Codec α) : Prop :=
  Layout.ReadBy codec codec fun value => value

namespace Codec.Faithful

variable {codec : Codec α} {a b : α}

/-- A value that fits is decoded from its encoding. -/
theorem decode_encode (h : codec.Faithful) (ha : codec.fits a) :
    codec.decode (codec.encode a) = .ok a := by
  rw [Layout.decode, Layout.encode, h.read_write ha]

/-- Only equal values that fit have equal encodings. -/
theorem encode_inj (h : codec.Faithful) (ha : codec.fits a) (hb : codec.fits b) :
    codec.encode a = codec.encode b ↔ a = b := by
  refine ⟨fun hencode => ?_, congrArg codec.encode⟩
  have hread := h.decode_encode ha
  rw [hencode, h.decode_encode hb] at hread
  exact (Except.ok.inj hread).symm

end Codec.Faithful

/-! ## Bytes and words -/

theorem word_write {width n : Nat} (hn : n < 256 ^ width) (rest : Octets) :
    word width (BigEndian.write width n rest) = .ok (n, rest) :=
  word_eq_ok_iff.mpr ⟨hn, rfl⟩

theorem bind_word_write {width n : Nat} (hn : n < 256 ^ width) (next : Nat → Decoder α)
    (rest : Octets) : (word width >>= next) (BigEndian.write width n rest) = next n rest := by
  show (word width (BigEndian.write width n rest) >>= fun found => next found.1 found.2) = _
  rw [word_write hn]
  rfl

theorem faithful_fixed (n : Nat) : (fixed n).Faithful where
  read_write _ := (exact_fixed n).read_write _
  prepends value := prepends_append value.bytes

/-- A value written as a number of some width. -/
theorem faithful_number {width : Nat} {toNat : α → Nat} {ofNat : Nat → α}
    (hlt : ∀ a, toNat a < 256 ^ width) (hof : ∀ a, ofNat (toNat a) = a) :
    Codec.Faithful ⟨fun a => BigEndian.write width (toNat a),
      do return ofNat (← word width), fun _ => True⟩ where
  read_write {a} _ rest := by
    refine (bind_word_write (hlt a) _ rest).trans ?_
    rw [hof a]
    rfl
  prepends a := prepends_word width (toNat a)

theorem faithful_uint32 : uint32.Faithful :=
  faithful_number UInt32.toNat_lt fun _ => UInt32.ofNat_toNat

theorem faithful_uint64 : uint64.Faithful :=
  faithful_number UInt64.toNat_lt fun _ => UInt64.ofNat_toNat

theorem faithful_int32 : int32.Faithful :=
  faithful_number (fun n => n.toUInt32.toNat_lt) fun n => by
    rw [UInt32.ofNat_toNat]
    rfl

theorem faithful_int64 : int64.Faithful :=
  faithful_number (fun n => n.toUInt64.toNat_lt) fun n => by
    rw [UInt64.ofNat_toNat]
    rfl

theorem faithful_bool : bool.Faithful :=
  faithful_number (by decide) (by decide)

/-- A byte string is read back with the zeros behind it. -/
theorem faithful_octets {limit : Nat} (hlimit : limit < 256 ^ 4) : (octets limit).Faithful where
  read_write {bytes} hfits rest := by
    have hcontent : take bytes.length (bytes ++ (List.replicate (padding bytes.length) 0 ++ rest)) =
        .ok (⟨bytes, rfl⟩, List.replicate (padding bytes.length) 0 ++ rest) :=
      take_eq_ok_iff.mpr rfl
    have hfiller : take (padding bytes.length) (List.replicate (padding bytes.length) 0 ++ rest) =
        .ok (FixedBytes.zero _, rest) :=
      take_eq_ok_iff.mpr rfl
    have hzero : (FixedBytes.zero (padding bytes.length)).bytes.any (· != 0) = false := by
      simp [FixedBytes.zero]
    refine (bind_word_write (Nat.lt_of_le_of_lt hfits hlimit) _ _).trans ?_
    rw [if_neg (Nat.not_lt.mpr hfits)]
    refine bind_read_iff.mpr ⟨_, _, hcontent, bind_read_iff.mpr ⟨_, _, hfiller, ?_⟩⟩
    rw [hzero]
    rfl
  prepends bytes :=
    (prepends_word 4 bytes.length).comp <| (prepends_append bytes).comp (prepends_append _)

/-! ## Structures -/

namespace Layout

theorem readBy_make (value : α) : (make value : Layout σ α).ReadBy (make value) fun _ => value where
  read_write _ _ := rfl
  prepends _ := prepends_nothing

namespace ReadBy

theorem field {before before' : Layout σ (α → β)} {codec codec' : Codec α} {part : σ → α}
    {build : σ → α → β} (h : before.ReadBy before' build)
    (hcodec : codec.ReadBy codec' fun value => value) :
    (before.field codec part).ReadBy (before'.field codec' part) fun s => build s (part s) where
  read_write {s} hfits rest := by
    have hbefore := h.read_write hfits.1 (codec.write (part s) rest)
    have hpart := hcodec.read_write hfits.2 rest
    exact bind_read_iff.mpr ⟨_, _, hbefore, bind_read_iff.mpr ⟨_, _, hpart, rfl⟩⟩
  prepends s := (h.prepends s).comp (hcodec.prepends (part s))

theorem mark {before before' : Layout σ α} {result : σ → α} (h : before.ReadBy before' result)
    {tag : Nat} (htag : tag < 256 ^ 4) :
    (before.mark tag).ReadBy (before'.mark tag) result where
  read_write {s} hfits rest := by
    have hbefore := h.read_write hfits (BigEndian.write 4 tag rest)
    refine bind_read_iff.mpr ⟨_, _, hbefore, ?_⟩
    rw [bind_word_write htag, if_pos rfl]
    rfl
  prepends s := (h.prepends s).comp (prepends_word 4 tag)

theorem congr {writer reader : Layout σ α} {result result' : σ → α}
    (h : writer.ReadBy reader result) (hresult : ∀ s, result s = result' s) :
    writer.ReadBy reader result' :=
  funext hresult ▸ h

end ReadBy

end Layout

theorem readBy_pair {first first' : Codec α} {second second' : Codec β}
    (hfirst : first.ReadBy first' fun a => a) (hsecond : second.ReadBy second' fun b => b) :
    (pair first second).ReadBy (pair first' second') fun both => both :=
  Layout.readBy_make Prod.mk |>.field hfirst |>.field hsecond

/-! ## Options, lists and unions -/

section Composite

variable {codec codec' : Codec α}

theorem readBy_extension {tag : Nat} (htag : tag < 256 ^ 4) (hpos : tag ≠ 0)
    (h : codec.ReadBy codec' fun a => a) :
    (extension tag codec).ReadBy (extension tag codec') fun value => value where
  read_write {value} hfits rest := by
    cases value with
    | none => exact bind_word_write (by decide) _ rest
    | some a =>
        refine (bind_word_write htag _ (codec.write a rest)).trans ?_
        rw [if_neg hpos, if_pos rfl]
        exact bind_read_iff.mpr ⟨_, _, h.read_write hfits rest, rfl⟩
  prepends value := by
    cases value with
    | none => exact prepends_word 4 0
    | some a => exact (prepends_word 4 tag).comp (h.prepends a)

theorem readBy_optional (h : codec.ReadBy codec' fun a => a) :
    (optional codec).ReadBy (optional codec') fun value => value :=
  readBy_extension (by decide) (by decide) h

theorem readMany_foldr_write (h : codec.ReadBy codec' fun a => a) {values : List α}
    (hfits : ∀ a ∈ values, codec.fits a) (rest : Octets) :
    readMany codec'.read values.length (values.foldr codec.write rest) = .ok (values, rest) := by
  induction values with
  | nil => rfl
  | cons a values ih =>
      have hfirst := h.read_write (hfits a List.mem_cons_self) (values.foldr codec.write rest)
      have hmore := ih fun b hb => hfits b (List.mem_cons_of_mem a hb)
      exact bind_read_iff.mpr ⟨_, _, hfirst, bind_read_iff.mpr ⟨_, _, hmore, rfl⟩⟩

theorem readBy_list {limit : Nat} (hlimit : limit < 256 ^ 4) (h : codec.ReadBy codec' fun a => a) :
    (list limit codec).ReadBy (list limit codec') fun values => values where
  read_write {values} hfits rest := by
    refine (bind_word_write (Nat.lt_of_le_of_lt hfits.1 hlimit) _ _).trans ?_
    rw [if_neg (Nat.not_lt.mpr hfits.1)]
    exact readMany_foldr_write h hfits.2 rest
  prepends values := (prepends_word 4 values.length).comp (prepends_foldr h.prepends values)

theorem readBy_many (h : codec.ReadBy codec' fun a => a) :
    (many codec).ReadBy (many codec') fun values => values :=
  readBy_list (by decide) h

end Composite

/-- A value of a union is read behind its tag as it is written there. -/
structure Arm.ReadAs (arm : Arm) (read : Nat → Decoder α) (value : α) : Prop where
  read_write (hfits : arm.codec.fits arm.payload) (rest : Octets) :
    read arm.tag (arm.codec.write arm.payload rest) = .ok (value, rest)
  prepends : Prepends (arm.codec.write arm.payload)

/-- A payload that is read by its codec and put into its kind. -/
theorem Layout.ReadBy.arm {codec codec' : Codec β} {tag : Nat} {read : Nat → Decoder α}
    {build : β → α} {payload : β} {value : α} (h : codec.ReadBy codec' fun b => b)
    (hread : read tag = build <$> codec'.read) (hvalue : build payload = value) :
    Arm.ReadAs ⟨tag, codec, payload⟩ read value where
  read_write hfits rest := by
    rw [hread]
    exact map_read_iff.mpr ⟨payload, h.read_write hfits rest, hvalue⟩
  prepends := h.prepends payload

/-- A kind without a payload. -/
theorem Arm.readAs_void {tag : Nat} {read : Nat → Decoder α} {value : α}
    (hread : read tag = pure value) : Arm.ReadAs ⟨tag, void, ()⟩ read value where
  read_write _ _ := by
    rw [hread]
    rfl
  prepends := prepends_nothing

/-- A kind with nothing but a mark of its own. -/
theorem Arm.readAs_mark {tag mark : Nat} {read : Nat → Decoder α} {value : α}
    (hmark : mark < 256 ^ 4)
    (hread : read tag = (Layout.make value |>.mark mark : Codec α).read) :
    Arm.ReadAs ⟨tag, Layout.make () |>.mark mark, ()⟩ read value where
  read_write _ rest := by
    rw [hread]
    refine bind_read_iff.mpr ⟨value, _, rfl, (bind_word_write hmark _ rest).trans ?_⟩
    rw [if_pos rfl]
    rfl
  prepends := prepends_word 4 mark

theorem readBy_union {view view' : α → Arm} {read read' : Nat → Decoder α}
    (htag : ∀ a, (view a).tag < 256 ^ 4) (h : ∀ a, (view a).ReadAs read' a) :
    (union view read).ReadBy (union view' read') fun a => a where
  read_write {a} hfits rest :=
    (bind_word_write (htag a) _ _).trans ((h a).read_write hfits rest)
  prepends a := (prepends_word 4 (view a).tag).comp (h a).prepends

theorem faithful_single {tag : Nat} {codec : Codec α} (htag : tag < 256 ^ 4)
    (h : codec.Faithful) : (single tag codec).Faithful :=
  readBy_union (fun _ => htag) fun a =>
    { read_write := fun hfits rest => by
        rw [if_pos rfl]
        exact h.read_write hfits rest
      prepends := h.prepends a }

/-- Words that tell the members apart. -/
theorem faithful_enumeration {members : List α} {code : α → UInt32}
    (h : ∀ a ∈ members, ∀ b ∈ members, code a = code b → a = b) :
    (enumeration members code).Faithful where
  read_write {a} ha rest := by
    have hfind : members.find? (fun b => (code b).toNat == (code a).toNat) = some a := by
      have hfound : (members.find? fun b => (code b).toNat == (code a).toNat).isSome :=
        List.find?_isSome.mpr ⟨a, ha, beq_self_eq_true _⟩
      obtain ⟨b, hb⟩ := Option.isSome_iff_exists.mp hfound
      have hword := List.find?_some (p := fun b => (code b).toNat == (code a).toNat) hb
      have hcode : code b = code a := UInt32.toNat_inj.mp (eq_of_beq hword)
      rw [hb, h b (List.mem_of_find?_eq_some hb) a ha hcode]
    refine (bind_word_write (code a).toNat_lt _ rest).trans ?_
    rw [hfind]
    rfl
  prepends a := prepends_word 4 (code a).toNat

/-! ## Recursive types -/

/-- Every value that fits takes at least so many bytes. -/
def Layout.Spans (layout : Layout σ α) (size : σ → Nat) : Prop :=
  ∀ part, layout.fits part → ∀ rest, size part + rest.length ≤ (layout.write part rest).length

section Spans

variable {codec : Codec α} {size : α → Nat}

theorem spans_foldr_write (h : codec.Spans size) {total : List α → Nat} (hnil : total [] = 0)
    (hcons : ∀ a values, total (a :: values) ≤ size a + total values) {values : List α}
    (hfits : ∀ a ∈ values, codec.fits a) (rest : Octets) :
    total values + rest.length ≤ (values.foldr codec.write rest).length := by
  induction values with
  | nil => rw [hnil, Nat.zero_add, List.foldr_nil]
  | cons a values ih =>
      have hfirst := h a (hfits a List.mem_cons_self) (values.foldr codec.write rest)
      have hmore := ih fun b hb => hfits b (List.mem_cons_of_mem a hb)
      have htotal := hcons a values
      rw [List.foldr_cons]
      omega

theorem spans_list {limit : Nat} (h : codec.Spans size) {total : List α → Nat}
    (hnil : total [] = 0) (hcons : ∀ a values, total (a :: values) ≤ size a + total values) :
    (list limit codec).Spans fun values => total values + 4 := by
  intro values hfits rest
  have hvalues := spans_foldr_write h hnil hcons hfits.2 rest
  show total values + 4 + rest.length ≤ (BigEndian.write 4 values.length _).length
  rw [BigEndian.length_write]
  omega

theorem spans_many (h : codec.Spans size) {total : List α → Nat}
    (hnil : total [] = 0) (hcons : ∀ a values, total (a :: values) ≤ size a + total values) :
    (many codec).Spans fun values => total values + 4 :=
  spans_list h hnil hcons

theorem spans_optional (h : codec.Spans size) :
    (optional codec).Spans fun value => value.elim 0 size + 4 := by
  intro value hfits rest
  cases value with
  | none => exact Nat.le_of_eq (BigEndian.length_write 4 0 rest).symm
  | some a =>
      have ha := h a hfits rest
      show size a + 4 + rest.length ≤ (BigEndian.write 4 1 (codec.write a rest)).length
      rw [BigEndian.length_write]
      omega

theorem le_length_write {n : Nat} {bytes : Octets} (h : n ≤ bytes.length) (width tag : Nat) :
    n ≤ (BigEndian.write width tag bytes).length := by
  rw [BigEndian.length_write]
  exact h.trans (Nat.le_add_left _ _)

end Spans

/-- The tag of a union takes four bytes. -/
theorem spans_union {view : α → Arm} {read : Nat → Decoder α}
    (h : ∀ a, Prepends ((union view read).write a)) : (union view read).Spans fun _ => 4 := by
  intro a _ rest
  have htag : ((union view read).write a []).length =
      4 + ((view a).codec.write (view a).payload []).length :=
    BigEndian.length_write 4 _ _
  show 4 + rest.length ≤ _
  rw [(h a).length_write rest, htag]
  omega

/-- A type is read back if its parts are. -/
def FaithfulShape (shape : Codec α → Codec α) : Prop :=
  ∀ {part part' : Codec α}, part.ReadBy part' (fun a => a) →
    (shape part).ReadBy (shape part') fun a => a

variable {shape : Codec α → Codec α} {depth : α → Nat}

/-- More levels read what fewer levels write. -/
theorem readBy_unroll (hshape : FaithfulShape shape) {levels : List β} {levels' : List σ}
    (h : levels.length ≤ levels'.length) :
    (unroll shape levels).ReadBy (unroll shape levels') fun a => a := by
  induction levels generalizing levels' with
  | nil => exact ⟨fun hfits => hfits.elim, fun _ => prepends_nothing⟩
  | cons level levels ih =>
      cases levels' with
      | nil => exact absurd h (Nat.not_succ_le_zero _)
      | cons level' levels' => exact hshape (ih (Nat.le_of_succ_le_succ h))

theorem spans_unroll (hshape : FaithfulShape shape)
    (hdepth : ∀ part : Codec α, part.Faithful → part.Spans depth → (shape part).Spans depth)
    (levels : List β) : (unroll shape levels).Spans depth := by
  induction levels with
  | nil => exact fun _ hfits => hfits.elim
  | cons level levels ih => exact hdepth _ (readBy_unroll hshape (Nat.le_refl _)) ih

/-- A recursive type is read back if its shape is and each of its levels takes a byte. -/
theorem faithful_recursive (hshape : FaithfulShape shape)
    (hdepth : ∀ part : Codec α, part.Faithful → part.Spans depth → (shape part).Spans depth) :
    (recursive shape depth).Faithful where
  read_write {a} hfits rest := by
    have hspans := spans_unroll hshape hdepth (List.replicate (depth a) ()) a hfits rest
    refine (readBy_unroll hshape ?_).read_write hfits rest
    rw [List.length_replicate]
    exact (Nat.le_add_right _ _).trans hspans
  prepends a :=
    (readBy_unroll hshape (Nat.le_refl (List.replicate (depth a) ()).length)).prepends a

end LedgerExport.Xdr
