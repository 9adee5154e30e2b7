import LedgerExport.Text.Decimal
import Mathlib.Algebra.Group.Nat.Defs
import Mathlib.Tactic.Ring

/-!
# Decimal numerals

Numerals with the same number of digits are ordered as texts in the way in which
the numbers that they spell are. A number is read back from a numeral that is wide
enough, and the digits that are read as a number are those of its numeral. A plus
sign is read as well, in the place of a zero in front. The numeral of no given
width is the usual one, without zeros in front, and is read back too.
-/

namespace LedgerExport.Decimal

theorem val_digit {n : Nat} (h : n < 10) : (digit n).val.toNat = 48 + n := by
  have hvalid : (48 + n).isValidChar := Or.inl (by omega)
  rw [digit, Char.ofNat, dif_pos hvalid]
  rfl

theorem digit_lt_digit {m n : Nat} (h : m < n) (hn : n < 10) : digit m < digit n := by
  rw [Char.lt_def, UInt32.lt_iff_toNat_lt, val_digit hn, val_digit (Nat.lt_trans h hn)]
  omega

/-- The last digits decide the order, whatever stands behind them. -/
theorem fixed_append_lt_of_mod {width m n : Nat} (h : m % 10 ^ width < n % 10 ^ width)
    (xs ys : List Char) : fixed width m ++ xs < fixed width n ++ ys := by
  induction width with
  | zero => simp [Nat.mod_one] at h
  | succ width ih =>
      rw [Nat.mod_pow_succ, Nat.mod_pow_succ] at h
      have hpow : Nat.pow 10 width = 10 ^ width := rfl
      have hm : m % 10 ^ width < 10 ^ width := Nat.mod_lt m (Nat.pow_pos (by decide))
      have hn : n / 10 ^ width % 10 < 10 := Nat.mod_lt _ (by decide)
      rw [fixed, fixed, List.cons_append, List.cons_append, List.cons_lt_cons_iff, hpow]
      rcases Nat.lt_trichotomy (m / 10 ^ width % 10) (n / 10 ^ width % 10) with hlt | heq | hgt
      · exact .inl (digit_lt_digit hlt hn)
      · rw [heq] at h
        exact .inr ⟨by rw [heq], ih (Nat.lt_of_add_lt_add_right h)⟩
      · have hle : 10 ^ width * (n / 10 ^ width % 10 + 1) ≤
            10 ^ width * (m / 10 ^ width % 10) := Nat.mul_le_mul_left _ hgt
        rw [Nat.mul_add, Nat.mul_one] at hle
        have hnlt : n % 10 ^ width < 10 ^ width := Nat.mod_lt n (Nat.pow_pos (by decide))
        omega

/-- Numerals that are wide enough are ordered as the numbers. -/
theorem fixed_append_lt {width m n : Nat} (h : m < n) (hn : n < 10 ^ width)
    (xs ys : List Char) : fixed width m ++ xs < fixed width n ++ ys := by
  apply fixed_append_lt_of_mod
  rw [Nat.mod_eq_of_lt hn, Nat.mod_eq_of_lt (Nat.lt_trans h hn)]
  exact h

/-! ## Reading -/

theorem value?_digit {n : Nat} (h : n < 10) : value? (digit n) = some n := by
  have hval : (digit n).toNat = 48 + n := val_digit h
  rw [value?, hval, if_pos (by omega)]
  congr 1
  omega

theorem value?_isSome_of_mem_fixed {width n : Nat} {c : Char} (h : c ∈ fixed width n) :
    (value? c).isSome := by
  induction width with
  | zero => cases h
  | succ width ih =>
      rcases List.mem_cons.mp h with rfl | h
      · rw [value?_digit (Nat.mod_lt _ (by decide))]
        rfl
      · exact ih h

theorem digit_bounds_of_mem_fixed {width n : Nat} {c : Char} (h : c ∈ fixed width n) :
    48 ≤ c.toNat ∧ c.toNat ≤ 57 := by
  have hvalue := value?_isSome_of_mem_fixed h
  unfold value? at hvalue
  split at hvalue
  · assumption
  · cases hvalue

theorem toNat_lt_of_mem_fixed {width n : Nat} {c : Char} (h : c ∈ fixed width n) :
    c.toNat < 128 := by
  have hbounds := digit_bounds_of_mem_fixed h
  omega

theorem all_isDigit_fixed (width n : Nat) : (fixed width n).all Char.isDigit = true := by
  rw [List.all_eq_true]
  intro c hc
  rw [Char.isDigit_iff_toNat]
  exact digit_bounds_of_mem_fixed hc

/-- The digits of a numeral spell its number behind whatever was read before. -/
theorem mapM_value?_fixed (width n : Nat) :
    ∃ values, (fixed width n).mapM value? = some values ∧ values.length = width ∧
      ∀ start, values.foldl (fun n d => 10 * n + d) start =
        start * 10 ^ width + n % 10 ^ width := by
  induction width with
  | zero => exact ⟨[], rfl, rfl, fun start => by simp [Nat.mod_one]⟩
  | succ width ih =>
      obtain ⟨values, hread, hlength, hvalue⟩ := ih
      have hpow : Nat.pow 10 width = 10 ^ width := rfl
      refine ⟨n / 10 ^ width % 10 :: values, ?_, by rw [List.length_cons, hlength],
        fun start => ?_⟩
      · rw [fixed, List.mapM_cons, value?_digit (Nat.mod_lt _ (by decide)), hread, hpow]
        rfl
      · rw [List.foldl_cons, hvalue, Nat.mod_pow_succ, Nat.pow_succ]
        ring

theorem digits?_fixed {width n : Nat} (hwidth : width ≠ 0) (hn : n < 10 ^ width) :
    digits? (fixed width n) = some n := by
  obtain ⟨values, hread, hlength, hvalue⟩ := mapM_value?_fixed width n
  have hempty : values.isEmpty = false := by
    rw [List.isEmpty_eq_false_iff, ne_eq, ← List.length_eq_zero_iff, hlength]
    exact hwidth
  show ((fixed width n).mapM value?).bind _ = some n
  rw [hread, Option.bind_some, hempty, hvalue, Nat.zero_mul, Nat.zero_add, Nat.mod_eq_of_lt hn]
  rfl

/-- A numeral that is wide enough is read back, as none starts with a sign. -/
theorem unsigned?_fixed {width n : Nat} (hwidth : width ≠ 0) (hn : n < 10 ^ width) :
    unsigned? (fixed width n) = some n := by
  rw [← digits?_fixed hwidth hn]
  unfold unsigned?
  split
  · next text htext =>
      have hsign := value?_isSome_of_mem_fixed (htext ▸ List.mem_cons_self : '+' ∈ fixed width n)
      exact absurd hsign (by decide)
  · rfl

/-! ## What is read -/

theorem eq_of_digit_eq {m n : Nat} (hm : m < 10) (hn : n < 10) (h : digit m = digit n) : m = n := by
  have hread := value?_digit hm
  rw [h, value?_digit hn] at hread
  exact (Option.some.inj hread).symm

theorem value?_eq_some_iff {c : Char} {n : Nat} : value? c = some n ↔ n < 10 ∧ c = digit n := by
  constructor
  · intro h
    unfold value? at h
    split at h
    · next hc =>
        have hn : c.toNat - 48 = n := Option.some.inj h
        refine ⟨by omega, Char.toNat_inj.mp ?_⟩
        have hdigit : (digit n).toNat = 48 + n := val_digit (by omega)
        omega
    · cases h
  · rintro ⟨hn, rfl⟩
    exact value?_digit hn

theorem mapM_value?_eq_some_iff {text : List Char} {values : List Nat} :
    text.mapM value? = some values ↔ (∀ d ∈ values, d < 10) ∧ text = values.map digit := by
  induction text generalizing values with
  | nil => cases values <;> simp
  | cons c text ih =>
      simp only [List.mapM_cons, Option.bind_eq_bind, Option.bind_eq_some_iff, Option.pure_def,
        Option.some.injEq, value?_eq_some_iff, ih]
      constructor
      · rintro ⟨d, ⟨hd, rfl⟩, more, ⟨hmore, rfl⟩, rfl⟩
        exact ⟨List.forall_mem_cons.mpr ⟨hd, hmore⟩, rfl⟩
      · rintro ⟨hvalues, htext⟩
        cases values with
        | nil => cases htext
        | cons d more =>
            obtain ⟨hd, hmore⟩ := List.forall_mem_cons.mp hvalues
            obtain ⟨hc, htext⟩ := List.cons.inj htext
            exact ⟨d, ⟨hd, hc⟩, more, ⟨hmore, htext⟩, rfl⟩

/-- The number that some values spell behind what was read before. -/
theorem foldl_values (values : List Nat) (start : Nat) :
    values.foldl (fun n d => 10 * n + d) start =
      start * 10 ^ values.length + values.foldl (fun n d => 10 * n + d) 0 := by
  induction values generalizing start with
  | nil => simp
  | cons d values ih =>
      rw [List.foldl_cons, List.foldl_cons, ih, ih (10 * 0 + d), List.length_cons, Nat.pow_succ]
      ring

theorem foldl_values_lt {values : List Nat} (h : ∀ d ∈ values, d < 10) :
    values.foldl (fun n d => 10 * n + d) 0 < 10 ^ values.length := by
  induction values with
  | nil => exact Nat.zero_lt_one
  | cons d values ih =>
      obtain ⟨hd, hvalues⟩ := List.forall_mem_cons.mp h
      have hle : (d + 1) * 10 ^ values.length ≤ 10 * 10 ^ values.length :=
        Nat.mul_le_mul_right _ hd
      have hlt := ih hvalues
      rw [List.foldl_cons, foldl_values, List.length_cons, Nat.pow_succ, Nat.mul_comm _ 10,
        Nat.mul_zero, Nat.zero_add]
      rw [Nat.add_mul, Nat.one_mul] at hle
      omega

/-- The numeral of what values spell has these values as its digits. -/
theorem fixed_foldl_values {values : List Nat} (h : ∀ d ∈ values, d < 10) (start : Nat) :
    fixed values.length (values.foldl (fun n d => 10 * n + d) start) = values.map digit := by
  induction values generalizing start with
  | nil => rfl
  | cons d values ih =>
      obtain ⟨hd, hvalues⟩ := List.forall_mem_cons.mp h
      have hpow : Nat.pow 10 values.length = 10 ^ values.length := rfl
      have hfirst : values.foldl (fun n d => 10 * n + d) (10 * start + d) / 10 ^ values.length =
          10 * start + d := by
        rw [foldl_values, Nat.add_comm, Nat.add_mul_div_right _ _ (Nat.pow_pos (by decide)),
          Nat.div_eq_of_lt (foldl_values_lt hvalues), Nat.zero_add]
      have hmod : (10 * start + d) % 10 = d := by omega
      rw [List.length_cons, fixed, List.foldl_cons, hpow, hfirst, hmod, ih hvalues, List.map_cons]

theorem length_fixed (width n : Nat) : (fixed width n).length = width := by
  induction width with
  | zero => rfl
  | succ width ih => rw [fixed, List.length_cons, ih]

/-- The digits that are read as a number are those of its numeral. -/
theorem digits?_eq_some_iff {text : List Char} {n : Nat} :
    digits? text = some n ↔
      text ≠ [] ∧ n < 10 ^ text.length ∧ text = fixed text.length n := by
  constructor
  · intro h
    obtain ⟨values, hread, hfold⟩ := Option.bind_eq_some_iff.mp h
    obtain ⟨hvalues, rfl⟩ := mapM_value?_eq_some_iff.mp hread
    split at hfold
    · cases hfold
    · next hempty =>
        have hnumber := Option.some.inj hfold
        rw [List.length_map, ← hnumber]
        refine ⟨?_, foldl_values_lt hvalues, (fixed_foldl_values hvalues 0).symm⟩
        rw [ne_eq, List.map_eq_nil_iff]
        rwa [List.isEmpty_iff] at hempty
  · rintro ⟨hne, hlt, htext⟩
    rw [htext]
    exact digits?_fixed (by rwa [ne_eq, List.length_eq_zero_iff]) hlt

/-- A text is a numeral, or the numeral with a plus sign in the place of a zero in front. -/
def UpToPlus (text numeral : List Char) : Prop :=
  text = numeral ∨ ∃ more, numeral = '0' :: more ∧ text = '+' :: more

namespace UpToPlus

variable {text numeral : List Char}

theorem length_eq (h : UpToPlus text numeral) : text.length = numeral.length := by
  obtain rfl | ⟨more, rfl, rfl⟩ := h
  · rfl
  · rfl

theorem mem_or_eq_plus (h : UpToPlus text numeral) {c : Char} (hc : c ∈ text) :
    c ∈ numeral ∨ c = '+' := by
  obtain rfl | ⟨more, rfl, rfl⟩ := h
  · exact .inl hc
  · rcases List.mem_cons.mp hc with hplus | hmore
    · exact .inr hplus
    · exact .inl (List.mem_cons_of_mem _ hmore)

theorem eq_of_plus_notMem (h : UpToPlus text numeral) (hplus : '+' ∉ text) : text = numeral := by
  obtain rfl | ⟨more, rfl, rfl⟩ := h
  · rfl
  · exact absurd List.mem_cons_self hplus

end UpToPlus

theorem fixed_succ_of_lt {width n : Nat} (h : n < 10 ^ width) :
    fixed (width + 1) n = '0' :: fixed width n := by
  have hpow : Nat.pow 10 width = 10 ^ width := rfl
  rw [fixed, hpow, Nat.div_eq_of_lt h]
  rfl

theorem lt_of_fixed_succ {width n : Nat} {more : List Char} (hn : n < 10 ^ (width + 1))
    (h : fixed (width + 1) n = '0' :: more) : n < 10 ^ width ∧ more = fixed width n := by
  obtain ⟨hdigit, hmore⟩ := List.cons.inj h
  have hpow : Nat.pow 10 width = 10 ^ width := rfl
  have hzero : n / 10 ^ width % 10 = 0 :=
    eq_of_digit_eq (Nat.mod_lt _ (by decide)) (by decide) (hpow ▸ hdigit)
  have hlt : n / 10 ^ width < 10 := by
    rw [Nat.div_lt_iff_lt_mul (Nat.pow_pos (by decide)), Nat.mul_comm, ← Nat.pow_succ]
    exact hn
  rw [Nat.mod_eq_of_lt hlt] at hzero
  exact ⟨Nat.lt_of_div_eq_zero (Nat.pow_pos (by decide)) hzero, hmore.symm⟩

/-- What is read as a number is its numeral, up to a plus sign. -/
theorem upToPlus_of_unsigned? {text : List Char} {n : Nat} (h : unsigned? text = some n) :
    n < 10 ^ text.length ∧ UpToPlus text (fixed text.length n) := by
  unfold unsigned? at h
  split at h
  · next more =>
      obtain ⟨-, hlt, hmore⟩ := digits?_eq_some_iff.mp h
      rw [List.length_cons]
      refine ⟨Nat.lt_trans hlt (Nat.pow_lt_pow_succ (by decide)), .inr ⟨more, ?_, rfl⟩⟩
      rw [fixed_succ_of_lt hlt, ← hmore]
  · obtain ⟨-, hlt, htext⟩ := digits?_eq_some_iff.mp h
    exact ⟨hlt, .inl htext⟩

/-- A numeral is read up to a plus sign, if it is not a zero alone. -/
theorem unsigned?_of_upToPlus {text : List Char} {width n : Nat} (hwidth : 2 ≤ width)
    (hn : n < 10 ^ width) (h : UpToPlus text (fixed width n)) : unsigned? text = some n := by
  obtain htext | ⟨more, hnumeral, rfl⟩ := h
  · rw [htext]
    exact unsigned?_fixed (by omega) hn
  · obtain ⟨width, rfl⟩ := Nat.exists_eq_succ_of_ne_zero (show width ≠ 0 by omega)
    obtain ⟨hlow, rfl⟩ := lt_of_fixed_succ hn hnumeral
    exact digits?_fixed (by omega) hlow

/-! ## Numerals without zeros in front -/

theorem digit_eq_digitChar {n : Nat} (h : n < 10) : digit n = Nat.digitChar n := by
  have hall : ∀ n < 10, digit n = Nat.digitChar n := by decide
  exact hall n h

theorem digits_eq_toDigits (n : Nat) : digits n = Nat.toDigits 10 n := by
  fun_induction digits n with
  | case1 n h => rw [Nat.toDigits_of_lt_base h, digit_eq_digitChar h]
  | case2 n h ih =>
      rw [ih, Nat.toDigits_of_base_le (by decide) (Nat.le_of_not_lt h),
        digit_eq_digitChar (Nat.mod_lt n (by decide))]

theorem nat_eq_toString (n : Nat) : nat n = toString n := by
  rw [nat, digits_eq_toDigits]
  rfl

theorem int_eq_toString (n : Int) : int n = toString n := by
  cases n with
  | ofNat n => exact nat_eq_toString n
  | negSucc n =>
      rw [int, digits_eq_toDigits, ← List.singleton_append, String.ofList_append]
      rfl

/-- The digits of a number are those of some values below ten that spell it. -/
theorem exists_values_digits (n : Nat) : ∃ values, (∀ d ∈ values, d < 10) ∧
    digits n = values.map digit ∧ values ≠ [] ∧ values.foldl (fun n d => 10 * n + d) 0 = n := by
  fun_induction digits n with
  | case1 n h => exact ⟨[n], by simpa using h, rfl, by simp, by simp⟩
  | case2 n h ih =>
      obtain ⟨values, hvalues, hdigits, hne, hfold⟩ := ih
      refine ⟨values ++ [n % 10], ?_, ?_, by simp, ?_⟩
      · intro d hd
        rcases List.mem_append.mp hd with hd | hd
        · exact hvalues d hd
        · rw [List.mem_singleton.mp hd]
          exact Nat.mod_lt n (by decide)
      · rw [hdigits, List.map_append, List.map_singleton]
      · rw [List.foldl_append, hfold, List.foldl_cons, List.foldl_nil, Nat.div_add_mod]

theorem digits?_digits (n : Nat) : digits? (digits n) = some n := by
  obtain ⟨values, hvalues, hdigits, hne, hfold⟩ := exists_values_digits n
  have hread := mapM_value?_eq_some_iff.mpr ⟨hvalues, hdigits⟩
  show ((digits n).mapM value?).bind _ = some n
  rw [hread, Option.bind_some, if_neg (by simpa using hne), hfold]

theorem notMem_digits {c : Char} (hc : value? c = none) (n : Nat) : c ∉ digits n := by
  obtain ⟨values, hvalues, hdigits, -⟩ := exists_values_digits n
  rw [hdigits, List.mem_map]
  rintro ⟨d, hd, rfl⟩
  rw [value?_digit (hvalues d hd)] at hc
  cases hc

/-- A number is read back from its digits, as none of them is a sign. -/
theorem signed?_digits (n : Nat) : signed? (digits n) = some (n : Int) := by
  have hminus : '-' ∉ digits n := notMem_digits (by decide) n
  have hplus : '+' ∉ digits n := notMem_digits (by decide) n
  unfold signed?
  split
  · next htext => exact absurd (htext ▸ List.mem_cons_self) hminus
  · unfold unsigned?
    split
    · next htext => exact absurd (htext ▸ List.mem_cons_self) hplus
    · rw [digits?_digits]
      rfl

/-- An integer is read back from its text. -/
theorem signed?_int (n : Int) : signed? (int n).toList = some n := by
  cases n with
  | ofNat n => rw [int, nat, String.toList_ofList, signed?_digits]; rfl
  | negSucc n =>
      rw [int, String.toList_ofList, signed?, digits?_digits]
      rfl

end LedgerExport.Decimal
