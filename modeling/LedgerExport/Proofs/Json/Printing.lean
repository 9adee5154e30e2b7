import LedgerExport.Export
import LedgerExport.Proofs.Record.LedgerForms
import LedgerExport.Proofs.Text.Decimal

/-!
# Printed JSON determines the value

What is printed of a value ends where the value does: what follows is never taken
for a part of it, and no two values are printed alike. So the text of a run tells
its documents, and each of these what was written as it, in either style.

## Implementation notes

Two prints that agree are compared part by part, each in front of what follows. A
number ends where its characters do, so what follows a value must not go on with
one; a comma, a bracket, a blank and the end of a text do not.
-/

namespace LedgerExport.Json

/-! ## Texts in quotation marks -/

/-- The character that stands behind a backslash, by its letter or its number, and the rest. -/
def behindBackslash : List Char → Option (Char × List Char)
  | 'n' :: rest => some ('\n', rest)
  | 'r' :: rest => some ('\r', rest)
  | 't' :: rest => some ('\t', rest)
  | 'b' :: rest => some ('\x08', rest)
  | 'f' :: rest => some ('\x0c', rest)
  | 'u' :: '0' :: '0' :: high :: low :: rest =>
    (List.range 32).find? (fun n => Hex.digit (n / 16) = high ∧ Hex.digit (n % 16) = low)
      |>.map fun n => (Char.ofNat n, rest)
  | c :: rest => some (c, rest)
  | [] => none

/-- The first character between quotation marks and the rest, up to the mark at the end. -/
def unescape : List Char → Option (Char × List Char)
  | [] => none
  | c :: rest =>
    if c = '\x22' then none
    else if c = '\x5c' then behindBackslash rest
    else some (c, rest)

theorem unescape_escape (c : Char) (rest : List Char) :
    unescape (escape c ++ rest) = some (c, rest) := by
  unfold escape
  split_ifs with hquoted hline hreturn htab hback hfeed hcontrol
  · rcases hquoted with rfl | rfl <;> rfl
  · rw [hline]; rfl
  · rw [hreturn]; rfl
  · rw [htab]; rfl
  · rw [hback]; rfl
  · rw [hfeed]; rfl
  · -- Control characters are few enough to be looked up.
    have hfind : ∀ n < 32, (List.range 32).find? (fun m =>
        Hex.digit (m / 16) = Hex.digit (n / 16) ∧ Hex.digit (m % 16) = Hex.digit (n % 16)) =
        some n := by
      decide
    show Option.map (fun n => (Char.ofNat n, rest)) _ = some (c, rest)
    rw [hfind c.toNat hcontrol, Option.map_some, Char.ofNat_toNat]
  · obtain ⟨hmark, hslash⟩ := not_or.mp hquoted
    rw [List.singleton_append, unescape, if_neg hmark, if_neg hslash]

/-- Characters in front of the mark at the end are known, and so is what follows it. -/
theorem foldr_escape_injective {chars chars' rest rest' : List Char}
    (h : chars.foldr (fun c after => escape c ++ after) ('\x22' :: rest) =
      chars'.foldr (fun c after => escape c ++ after) ('\x22' :: rest')) :
    chars = chars' ∧ rest = rest' := by
  have hfirst := congrArg unescape h
  induction chars generalizing chars' with
  | nil =>
      cases chars' with
      | nil => exact ⟨rfl, (List.cons.inj h).2⟩
      | cons c' chars' =>
          rw [List.foldr_cons, unescape_escape] at hfirst
          cases hfirst
  | cons c chars ih =>
      rw [List.foldr_cons, unescape_escape] at hfirst
      cases chars' with
      | nil => cases hfirst
      | cons c' chars' =>
          rw [List.foldr_cons, unescape_escape] at hfirst
          obtain ⟨rfl, hmore⟩ := Prod.mk.inj (Option.some.inj hfirst)
          obtain ⟨rfl, hrest⟩ := ih hmore (congrArg unescape hmore)
          exact ⟨rfl, hrest⟩

theorem printText_injective {text text' : String} {rest rest' : List Char}
    (h : printText text rest = printText text' rest') : text = text' ∧ rest = rest' := by
  obtain ⟨htext, hrest⟩ := foldr_escape_injective (List.cons.inj h).2
  exact ⟨String.toList_inj.mp htext, hrest⟩

/-! ## Numbers -/

/-- What follows does not go on with a number. -/
def Closed (rest : List Char) : Prop :=
  ∀ c ∈ rest.head?, inNumber c = false

theorem takeWhile_inNumber {front rest : List Char} (hfront : front.all inNumber = true)
    (hrest : Closed rest) : (front ++ rest).takeWhile inNumber = front := by
  rw [List.takeWhile_append_of_pos (List.all_eq_true.mp hfront)]
  cases rest with
  | nil => exact List.append_nil front
  | cons c rest => rw [List.takeWhile_cons_of_neg (by simp [hrest c rfl]), List.append_nil]

/-- The text of a number. -/
def numeral? : Json → Option String
  | .int n => some (Decimal.int n)
  | .decimal number => some number.text
  | _ => none

theorem numeral?_ne_empty {value : Json} {text : String} (h : value.numeral? = some text) :
    text ≠ "" := by
  cases value with
  | int n =>
      rintro rfl
      have hread := Decimal.signed?_int n
      rw [Option.some.inj h] at hread
      cases hread
  | decimal number =>
      rw [← Option.some.inj h]
      exact number.text_ne_empty
  | _ => cases h

theorem all_inNumber_digits (n : Nat) : (Decimal.digits n).all inNumber = true := by
  rw [List.all_eq_true]
  intro c hc
  cases hvalue : Decimal.value? c with
  | none => exact absurd hc (Decimal.notMem_digits hvalue n)
  | some d => rw [inNumber, hvalue, Option.isSome_some, Bool.true_or]

theorem all_inNumber_numeral? {value : Json} {text : String} (h : value.numeral? = some text) :
    text.toList.all inNumber = true := by
  cases value with
  | int n =>
      rw [← Option.some.inj h]
      cases n with
      | ofNat n =>
          rw [Decimal.int, Decimal.nat, String.toList_ofList]
          exact all_inNumber_digits n
      | negSucc n =>
          rw [Decimal.int, String.toList_ofList, List.all_cons, all_inNumber_digits]
          rfl
  | decimal number =>
      rw [← Option.some.inj h]
      exact number.all_inNumber
  | _ => cases h

/-- The text of a number determines the number. -/
theorem eq_of_numeral? {a b : Json} {text : String} (ha : a.numeral? = some text)
    (hb : b.numeral? = some text) : a = b := by
  have hne : ∀ (n : Int) (number : Fraction), Decimal.int n ≠ number.text := by
    intro n number h
    have hread := number.signed?_text
    rw [← h, Decimal.signed?_int] at hread
    cases hread
  cases a with
  | int n =>
      cases b with
      | int m =>
          have hread := Decimal.signed?_int n
          rw [Option.some.inj ha, ← Option.some.inj hb, Decimal.signed?_int] at hread
          rw [Option.some.inj hread]
      | decimal number =>
          exact absurd ((Option.some.inj ha).trans (Option.some.inj hb).symm) (hne n number)
      | _ => cases hb
  | decimal number =>
      cases b with
      | int m => exact absurd ((Option.some.inj hb).trans (Option.some.inj ha).symm) (hne m number)
      | decimal number' =>
          rw [Fraction.ext ((Option.some.inj ha).trans (Option.some.inj hb).symm)]
      | _ => cases hb
  | _ => cases ha

/-! ## Kinds -/

/-- The kind of a value; all numbers are of one kind. -/
def kind : Json → Nat
  | .null => 0
  | .bool _ => 1
  | .int _ => 2
  | .decimal _ => 2
  | .str _ => 3
  | .arr _ => 4
  | .obj _ => 5

/-- The kind of the values that a character opens, if there are any. -/
def kindOf (c : Char) : Option Nat :=
  match c with
  | 'n' => some 0
  | 't' => some 1
  | 'f' => some 1
  | '\x22' => some 3
  | '[' => some 4
  | '\x7b' => some 5
  | _ => if inNumber c then some 2 else none

theorem kindOf_of_inNumber {c : Char} (h : inNumber c = true) : kindOf c = some 2 := by
  unfold kindOf
  split
  case h_7 => rw [if_pos h]
  all_goals exact absurd h (by decide)

variable {spacing : Spacing} {depth : Nat}

theorem print_of_numeral? {value : Json} {text : String} (h : value.numeral? = some text)
    (rest : List Char) : print spacing depth value rest = text.toList ++ rest := by
  cases value with
  | int n => rw [← Option.some.inj h]; rfl
  | decimal number => rw [← Option.some.inj h]; rfl
  | _ => cases h

/-- The first character of a print tells the kind of the value. -/
theorem head?_print (value : Json) (rest : List Char) :
    (print spacing depth value rest).head?.bind kindOf = some value.kind := by
  have hnumber : ∀ {value : Json} {text : String}, value.numeral? = some text →
      (print spacing depth value rest).head?.bind kindOf = some 2 := by
    intro value text h
    rw [print_of_numeral? h]
    cases htext : text.toList with
    | nil => exact absurd (String.toList_eq_nil_iff.mp htext) (numeral?_ne_empty h)
    | cons c more =>
        have hall := all_inNumber_numeral? h
        rw [htext, List.all_cons, Bool.and_eq_true] at hall
        exact kindOf_of_inNumber hall.1
  cases value with
  | null => rfl
  | bool value => cases value <;> rfl
  | int n => exact hnumber rfl
  | decimal number => exact hnumber rfl
  | str text => rfl
  | arr items => cases items <;> rfl
  | obj members => cases members <;> rfl

theorem kind_eq_of_print {a b : Json} {rest rest' : List Char}
    (h : print spacing depth a rest = print spacing depth b rest') : a.kind = b.kind := by
  have hhead : (print spacing depth a rest).head?.bind kindOf = some a.kind := head?_print a rest
  rw [h, head?_print] at hhead
  exact (Option.some.inj hhead).symm

/-- A value that holds no other is determined by its print. -/
theorem print_injective_of_leaf {a b : Json} {rest rest' : List Char} (hleaf : a.kind < 4)
    (hrest : Closed rest) (hrest' : Closed rest')
    (h : print spacing depth a rest = print spacing depth b rest') : a = b ∧ rest = rest' := by
  have hkind := kind_eq_of_print h
  have hnumber : ∀ {text text' : String}, a.numeral? = some text → b.numeral? = some text' →
      a = b ∧ rest = rest' := by
    intro text text' ha hb
    rw [print_of_numeral? ha, print_of_numeral? hb] at h
    have htexts := congrArg (List.takeWhile inNumber) h
    rw [takeWhile_inNumber (all_inNumber_numeral? ha) hrest,
      takeWhile_inNumber (all_inNumber_numeral? hb) hrest'] at htexts
    obtain rfl := String.toList_inj.mp htexts
    exact ⟨eq_of_numeral? ha hb, List.append_cancel_left h⟩
  cases a with
  | null =>
      cases b with
      | null => exact ⟨rfl, List.append_cancel_left h⟩
      | _ => cases hkind
  | bool value =>
      cases b with
      | bool value' =>
          cases value <;> cases value'
          · exact ⟨rfl, List.append_cancel_left h⟩
          · cases h
          · cases h
          · exact ⟨rfl, List.append_cancel_left h⟩
      | _ => cases hkind
  | int n =>
      cases b with
      | int m => exact hnumber rfl rfl
      | decimal number => exact hnumber rfl rfl
      | _ => cases hkind
  | decimal number =>
      cases b with
      | int m => exact hnumber rfl rfl
      | decimal number' => exact hnumber rfl rfl
      | _ => cases hkind
  | str text =>
      cases b with
      | str text' =>
          obtain ⟨rfl, hrest⟩ := printText_injective h
          exact ⟨rfl, hrest⟩
      | _ => cases hkind
  | arr items => exact absurd hleaf (Nat.lt_irrefl 4)
  | obj members => exact absurd hleaf (Nat.not_succ_lt_self)

/-! ## Parts -/

/-- What follows goes on neither with a number nor with a further item or member. -/
def Ends (rest : List Char) : Prop :=
  ∀ c ∈ rest.head?, inNumber c = false ∧ c ≠ ','

theorem Ends.closed {rest : List Char} (h : Ends rest) : Closed rest :=
  fun c hc => (h c hc).1

theorem Ends.ne_comma {rest more : List Char} (h : Ends rest) : rest ≠ ',' :: more := by
  rintro rfl
  exact (h ',' rfl).2 rfl

theorem ends_line_append {c : Char} (hc : inNumber c = false ∧ c ≠ ',') (rest : List Char) :
    Ends (spacing.line depth ++ c :: rest) := by
  intro first hfirst
  cases hline : spacing.line depth with
  | nil =>
      rw [hline] at hfirst
      cases hfirst
      exact hc
  | cons blank more =>
      rw [hline] at hfirst
      cases hfirst
      rcases spacing.blank_of_mem_line depth first (by simp [hline]) with rfl | rfl
      · decide
      · decide

/-- Behind an opening bracket stands either the closing one or what opens the first part. -/
theorem line_append_ne {c : Char} (hc : c ≠ ' ' ∧ c ≠ '\n') {part rest : List Char}
    (hpart : part.head? ≠ some c) : spacing.line depth ++ part ≠ c :: rest := by
  intro h
  cases hline : spacing.line depth with
  | nil =>
      rw [hline, List.nil_append] at h
      exact hpart (by rw [h, List.head?_cons])
  | cons blank more =>
      rw [hline] at h
      obtain ⟨rfl, -⟩ := List.cons.inj h
      rcases spacing.blank_of_mem_line depth blank (by simp [hline]) with rfl | rfl
      · exact hc.1 rfl
      · exact hc.2 rfl

/-- No value opens with a closing bracket. -/
theorem head?_print_ne {c : Char} (hc : kindOf c = none) (value : Json) (rest : List Char) :
    (print spacing depth value rest).head? ≠ some c := by
  intro hhead
  have hkind : (print spacing depth value rest).head?.bind kindOf = some value.kind :=
    head?_print value rest
  rw [hhead, Option.bind_some, hc] at hkind
  cases hkind

theorem head?_printText_ne {c : Char} (hc : c ≠ '\x22') (text : String) (rest : List Char) :
    (printText text rest).head? ≠ some c := by
  rintro ⟨⟩
  exact hc rfl

theorem closed_printItems (items : List Json) {rest : List Char} (hrest : Ends rest) :
    Closed (printItems spacing depth items rest) := by
  cases items with
  | nil => exact hrest.closed
  | cons item items =>
      rintro c ⟨⟩
      decide

theorem closed_printMembers (members : List (String × Json)) {rest : List Char}
    (hrest : Ends rest) : Closed (printMembers spacing depth members rest) := by
  cases members with
  | nil => exact hrest.closed
  | cons member members =>
      rintro c ⟨⟩
      decide

/-! ## Values -/

mutual

/-- A print determines the value and what follows it. -/
theorem print_injective {depth : Nat} (a b : Json) {rest rest' : List Char} (hrest : Closed rest)
    (hrest' : Closed rest') (h : print spacing depth a rest = print spacing depth b rest') :
    a = b ∧ rest = rest' := by
  have hkind := kind_eq_of_print h
  cases a with
  | arr items =>
      cases b with
      | arr items' =>
          have hends : ∀ rest, Ends (spacing.line depth ++ ']' :: rest) :=
            ends_line_append (by decide)
          match items, items' with
          | [], [] => exact ⟨rfl, (List.cons.inj (List.cons.inj h).2).2⟩
          | [], item' :: items' =>
              exact absurd (List.cons.inj h).2.symm
                (line_append_ne (by decide) (head?_print_ne rfl item' _))
          | item :: items, [] =>
              exact absurd (List.cons.inj h).2
                (line_append_ne (by decide) (head?_print_ne rfl item _))
          | item :: items, item' :: items' =>
              obtain ⟨hitem, hmore⟩ := print_injective item item'
                (closed_printItems items (hends rest)) (closed_printItems items' (hends rest'))
                (List.append_cancel_left (List.cons.inj h).2)
              obtain ⟨hitems, hclose⟩ :=
                printItems_injective items items' (hends rest) (hends rest') hmore
              rw [hitem, hitems]
              exact ⟨rfl, (List.cons.inj (List.append_cancel_left hclose)).2⟩
      | _ => cases hkind
  | obj members =>
      cases b with
      | obj members' =>
          have hends : ∀ rest, Ends (spacing.line depth ++ '\x7d' :: rest) :=
            ends_line_append (by decide)
          match members, members' with
          | [], [] => exact ⟨rfl, (List.cons.inj (List.cons.inj h).2).2⟩
          | [], (name', value') :: members' =>
              exact absurd (List.cons.inj h).2.symm
                (line_append_ne (by decide) (head?_printText_ne (by decide) name' _))
          | (name, value) :: members, [] =>
              exact absurd (List.cons.inj h).2
                (line_append_ne (by decide) (head?_printText_ne (by decide) name _))
          | (name, value) :: members, (name', value') :: members' =>
              obtain ⟨hname, hcolon⟩ :=
                printText_injective (List.append_cancel_left (List.cons.inj h).2)
              obtain ⟨hvalue, hmore⟩ := print_injective value value'
                (closed_printMembers members (hends rest))
                (closed_printMembers members' (hends rest')) (List.append_cancel_left hcolon)
              obtain ⟨hmembers, hclose⟩ :=
                printMembers_injective members members' (hends rest) (hends rest') hmore
              rw [hname, hvalue, hmembers]
              exact ⟨rfl, (List.cons.inj (List.append_cancel_left hclose)).2⟩
      | _ => cases hkind
  | _ => exact print_injective_of_leaf (Nat.le_of_ble_eq_true rfl) hrest hrest' h

theorem printItems_injective {depth : Nat} (items items' : List Json) {rest rest' : List Char}
    (hrest : Ends rest) (hrest' : Ends rest')
    (h : printItems spacing depth items rest = printItems spacing depth items' rest') :
    items = items' ∧ rest = rest' := by
  match items, items' with
  | [], [] => exact ⟨rfl, h⟩
  | [], item' :: items' => exact absurd h hrest.ne_comma
  | item :: items, [] => exact absurd h.symm hrest'.ne_comma
  | item :: items, item' :: items' =>
      obtain ⟨hitem, hmore⟩ := print_injective item item' (closed_printItems items hrest)
        (closed_printItems items' hrest') (List.append_cancel_left (List.cons.inj h).2)
      obtain ⟨hitems, hrest⟩ := printItems_injective items items' hrest hrest' hmore
      rw [hitem, hitems]
      exact ⟨rfl, hrest⟩

theorem printMembers_injective {depth : Nat} (members members' : List (String × Json))
    {rest rest' : List Char} (hrest : Ends rest) (hrest' : Ends rest')
    (h : printMembers spacing depth members rest = printMembers spacing depth members' rest') :
    members = members' ∧ rest = rest' := by
  match members, members' with
  | [], [] => exact ⟨rfl, h⟩
  | [], member' :: members' => exact absurd h hrest.ne_comma
  | member :: members, [] => exact absurd h.symm hrest'.ne_comma
  | (name, value) :: members, (name', value') :: members' =>
      obtain ⟨hname, hcolon⟩ := printText_injective (List.append_cancel_left (List.cons.inj h).2)
      obtain ⟨hvalue, hmore⟩ := print_injective value value' (closed_printMembers members hrest)
        (closed_printMembers members' hrest') (List.append_cancel_left hcolon)
      obtain ⟨hmembers, hrest⟩ := printMembers_injective members members' hrest hrest' hmore
      rw [hname, hvalue, hmembers]
      exact ⟨rfl, hrest⟩

end

/-- Two values of the same text are the same. -/
theorem text_injective (spacing : Spacing) : Function.Injective (text spacing) := by
  intro a b h
  have hclosed : Closed [] := fun c hc => nomatch hc
  exact (print_injective a b hclosed hclosed (String.ofList_inj.mp h)).1

/-! ## What follows a value -/

theorem printText_append (text : String) (rest more : List Char) :
    printText text (rest ++ more) = printText text rest ++ more := by
  rw [printText, printText, List.cons_append]
  congr 1
  induction text.toList with
  | nil => rfl
  | cons c chars ih => rw [List.foldr_cons, ih, List.foldr_cons, List.append_assoc]

theorem printLeaf_append (value : Json) (rest more : List Char) :
    printLeaf value (rest ++ more) = printLeaf value rest ++ more := by
  cases value with
  | null => rfl
  | bool value => cases value <;> rfl
  | int n => exact (List.append_assoc _ rest more).symm
  | decimal number => exact (List.append_assoc _ rest more).symm
  | str text => exact printText_append text rest more
  | arr items => rfl
  | obj members => rfl

mutual

/-- What follows a value is put behind its print. -/
theorem print_append {depth : Nat} (value : Json) (rest more : List Char) :
    print spacing depth value (rest ++ more) = print spacing depth value rest ++ more := by
  match value with
  | .arr (item :: items) =>
      simp only [print, List.cons_append, List.append_assoc, ← print_append item,
        ← printItems_append items]
  | .obj ((name, value) :: members) =>
      simp only [print, List.cons_append, List.append_assoc, ← printText_append,
        ← print_append value, ← printMembers_append members]
  | .arr [] => rfl
  | .obj [] => rfl
  | .null => exact printLeaf_append .null rest more
  | .bool value => exact printLeaf_append (.bool value) rest more
  | .int n => exact printLeaf_append (.int n) rest more
  | .decimal number => exact printLeaf_append (.decimal number) rest more
  | .str text => exact printLeaf_append (.str text) rest more

theorem printItems_append {depth : Nat} (items : List Json) (rest more : List Char) :
    printItems spacing depth items (rest ++ more) =
      printItems spacing depth items rest ++ more := by
  match items with
  | [] => rfl
  | item :: items =>
      simp only [printItems, List.cons_append, List.append_assoc, ← print_append item,
        ← printItems_append items]

theorem printMembers_append {depth : Nat} (members : List (String × Json))
    (rest more : List Char) :
    printMembers spacing depth members (rest ++ more) =
      printMembers spacing depth members rest ++ more := by
  match members with
  | [] => rfl
  | (name, value) :: members =>
      simp only [printMembers, List.cons_append, List.append_assoc, ← printText_append,
        ← print_append value, ← printMembers_append members]

end

/-- Texts with the end of a line behind each determine the values, their number and their order. -/
theorem eq_of_flatMap_text {values values' : List Json}
    (h : values.flatMap (fun value => (text spacing value).toList ++ ['\n']) =
      values'.flatMap fun value => (text spacing value).toList ++ ['\n']) : values = values' := by
  have hline : ∀ (value : Json) (more : List Char),
      (text spacing value).toList ++ ['\n'] ++ more = print spacing 0 value ('\n' :: more) := by
    intro value more
    rw [text, String.toList_ofList, List.append_assoc, ← print_append]
    rfl
  have hclosed : ∀ more, Closed ('\n' :: more) := by
    rintro more c ⟨⟩
    decide
  induction values generalizing values' with
  | nil =>
      cases values' with
      | nil => rfl
      | cons value' values' => simp at h
  | cons value values ih =>
      cases values' with
      | nil => simp at h
      | cons value' values' =>
          rw [List.flatMap_cons, List.flatMap_cons, hline, hline] at h
          obtain ⟨hvalue, hmore⟩ := print_injective value value' (hclosed _) (hclosed _) h
          rw [hvalue, ih (List.cons.inj hmore).2]

end LedgerExport.Json

namespace LedgerExport

/-! ## Documents of runs -/

variable {α : Type}

theorem Style.exists_spacing (style : Style) : ∃ spacing, style.text = Json.text spacing := by
  cases style with
  | compact => exact ⟨.tight, rfl⟩
  | pretty => exact ⟨.lines, rfl⟩

theorem Style.text_injective (style : Style) : Function.Injective style.text := by
  obtain ⟨spacing, hstyle⟩ := style.exists_spacing
  rw [hstyle]
  exact Json.text_injective spacing

/-- The text of a value whose form reads it back determines the value. -/
theorem Form.text_injective (form : Form α) [form.Faithful] (style : Style) :
    Function.Injective fun a => style.text (form.write a) := by
  intro a b h
  have hread : form.read (form.write a) = some a := Faithful.readBy a
  rw [style.text_injective h, Faithful.readBy b] at hread
  exact (Option.some.inj hread).symm

/-- Two ledgers are written as the same text only if they are the same. -/
theorem Record.LedgerRecord.text_injective (style : Style) :
    Function.Injective fun record => style.text (Record.LedgerRecord.form.write record) :=
  Form.text_injective Record.LedgerRecord.form style

theorem Run.toList_text (style : Style) (run : Run) :
    (run.text style).toList =
      run.documents.flatMap fun document => (style.text document).toList ++ ['\n'] := by
  rw [text, String.toList_join, List.flatMap_map]
  simp only [String.toList_append]
  rfl

/-- The text of a run determines its documents, their number and their order. -/
theorem Run.documents_eq_of_text_eq (style : Style) {run run' : Run}
    (h : run.text style = run'.text style) : run.documents = run'.documents := by
  obtain ⟨spacing, hstyle⟩ := style.exists_spacing
  have htext := congrArg String.toList h
  rw [Run.toList_text, Run.toList_text, hstyle] at htext
  exact Json.eq_of_flatMap_text htext

end LedgerExport
