import LedgerExport.Stream.Lines
import Mathlib.Data.List.Infix

/-!
# The windows of a line

The digits that are found in a line are its first digits, and all of them are
found just if every window up to the last digit has one. A window is never smaller
than 1021 bytes, so white space of 1020 bytes in a row is passed over wherever it
stands.
-/

namespace LedgerExport.Lines

variable {before : Nat} {bytes : Octets}

/-! ## One window -/

/-- The digits in the window that is looked at next. -/
def inWindow (before : Nat) (bytes : Octets) : Octets :=
  (bytes.take (windowSize before)).filter (!isGap ·)

/-- The digits of some bytes are those in the next window and those behind it. -/
theorem filter_eq_inWindow_append (before : Nat) (bytes : Octets) :
    bytes.filter (!isGap ·) =
      inWindow before bytes ++ (bytes.drop (windowSize before)).filter (!isGap ·) := by
  rw [inWindow, ← List.filter_append, List.take_append_drop]

theorem digitsFrom_of_empty_window (h : inWindow before bytes = []) :
    digitsFrom before bytes = [] := by
  rw [digitsFrom]
  split
  · rfl
  · next hfound =>
      rw [inWindow, hfound] at h
      cases h

theorem digitsFrom_of_window (h : inWindow before bytes ≠ []) :
    digitsFrom before bytes = inWindow before bytes ++
      digitsFrom (before + (inWindow before bytes).length) (bytes.drop (windowSize before)) := by
  rw [digitsFrom]
  split
  · next hnone => exact absurd hnone h
  · next digit found hfound => rw [inWindow, hfound, List.length_cons, Nat.add_assoc]

/-- Induction along the windows of a line, up to the first one without a digit. -/
@[elab_as_elim]
theorem window_induction {motive : Nat → Octets → Prop}
    (empty : ∀ before bytes, inWindow before bytes = [] → motive before bytes)
    (window : ∀ before bytes, inWindow before bytes ≠ [] →
      motive (before + (inWindow before bytes).length) (bytes.drop (windowSize before)) →
      motive before bytes) (before : Nat) (bytes : Octets) : motive before bytes := by
  induction before, bytes using digitsFrom.induct with
  | case1 before bytes hfound => exact empty before bytes hfound
  | case2 before bytes digit found hfound ih =>
      have hwindow : inWindow before bytes = digit :: found := hfound
      apply window before bytes
      · simp [hwindow]
      · simpa [hwindow, Nat.add_assoc] using ih

/-! ## All windows -/

/-- Every window up to the last digit has a digit. -/
inductive WithinReach : Nat → Octets → Prop
  | noDigits {before : Nat} {bytes : Octets} (h : bytes.filter (!isGap ·) = []) :
      WithinReach before bytes
  | window {before : Nat} {bytes : Octets} (found : inWindow before bytes ≠ [])
      (more : WithinReach (before + (inWindow before bytes).length)
        (bytes.drop (windowSize before))) :
      WithinReach before bytes

/-- The digits that are found are the first ones. -/
theorem digitsFrom_prefix (before : Nat) (bytes : Octets) :
    digitsFrom before bytes <+: bytes.filter (!isGap ·) := by
  induction before, bytes using window_induction with
  | empty before bytes hempty =>
      rw [digitsFrom_of_empty_window hempty]
      exact List.nil_prefix
  | window before bytes hfound ih =>
      rw [digitsFrom_of_window hfound, filter_eq_inWindow_append before bytes]
      exact (List.prefix_append_right_inj _).mpr ih

/-- All digits are found just if they are within reach. -/
theorem digitsFrom_eq_filter_iff (before : Nat) (bytes : Octets) :
    digitsFrom before bytes = bytes.filter (!isGap ·) ↔ WithinReach before bytes := by
  induction before, bytes using window_induction with
  | empty before bytes hempty =>
      rw [digitsFrom_of_empty_window hempty]
      constructor
      · intro hnone
        exact .noDigits hnone.symm
      · intro hreach
        cases hreach with
        | noDigits hnone => exact hnone.symm
        | window hfound => exact absurd hempty hfound
  | window before bytes hfound ih =>
      rw [digitsFrom_of_window hfound, filter_eq_inWindow_append before bytes,
        List.append_cancel_left_eq, ih]
      constructor
      · exact .window hfound
      · intro hreach
        cases hreach with
        | noDigits hnone =>
            rw [filter_eq_inWindow_append before bytes] at hnone
            exact absurd (List.append_eq_nil_iff.mp hnone).1 hfound
        | window _ hmore => exact hmore

/-- Digits without long runs of white space between them are within reach. -/
theorem withinReach_of_short_gaps {bytes : Octets}
    (h : ∀ gaps, gaps <:+: bytes → (∀ b ∈ gaps, isGap b = true) → gaps.length ≤ 1020)
    (before : Nat) : WithinReach before bytes := by
  induction before, bytes using window_induction with
  | empty before bytes hempty =>
      have hgaps : ∀ b ∈ bytes.take (windowSize before), isGap b = true := by
        simpa [inWindow, List.filter_eq_nil_iff] using hempty
      have hshort : (bytes.take (windowSize before)).length ≤ 1020 :=
        h _ (List.take_prefix _ _).isInfix hgaps
      have hwhole : bytes.take (windowSize before) = bytes := by
        apply List.take_of_length_le
        rw [List.length_take] at hshort
        simp only [windowSize] at hshort ⊢
        omega
      apply WithinReach.noDigits
      rwa [inWindow, hwhole] at hempty
  | window before bytes hfound ih =>
      apply WithinReach.window hfound
      apply ih
      intro gaps hpart
      exact h gaps (hpart.trans (List.drop_suffix _ _).isInfix)

/-- Digits behind white space that fills up a window and all of the next one are not found. -/
theorem digitsFrom_of_long_gap {front gaps : Octets} (hne : front ≠ [])
    (hfront : ∀ b ∈ front, isGap b = false) (hgaps : ∀ b ∈ gaps, isGap b = true)
    (hwithin : front.length ≤ windowSize before)
    (hlong : windowSize before + windowSize (before + front.length) ≤ front.length + gaps.length)
    (rest : Octets) : digitsFrom before (front ++ (gaps ++ rest)) = front := by
  have hdigits : front.filter (!isGap ·) = front :=
    List.filter_eq_self.mpr fun b hb => by rw [hfront b hb, Bool.not_false]
  have hnone : ∀ part, part ⊆ gaps → part.filter (!isGap ·) = [] := by
    intro part hpart
    apply List.filter_eq_nil_iff.mpr
    intro b hb
    simp [hgaps b (hpart hb)]
  have hfirst : inWindow before (front ++ (gaps ++ rest)) = front := by
    rw [inWindow, List.take_append, List.take_of_length_le hwithin,
      List.take_append_of_le_length (by omega), List.filter_append, hdigits,
      hnone _ (List.take_subset _ _), List.append_nil]
  have hdrop : (front ++ (gaps ++ rest)).drop (windowSize before) =
      gaps.drop (windowSize before - front.length) ++ rest := by
    rw [List.drop_append, List.drop_eq_nil_of_le hwithin, List.nil_append,
      List.drop_append_of_le_length (by omega)]
  have hsecond : inWindow (before + front.length)
      ((front ++ (gaps ++ rest)).drop (windowSize before)) = [] := by
    rw [hdrop, inWindow, List.take_append_of_le_length (by rw [List.length_drop]; omega)]
    exact hnone _ fun b hb => List.drop_subset _ _ (List.take_subset _ _ hb)
  rw [digitsFrom_of_window (by rwa [hfirst]), hfirst, digitsFrom_of_empty_window hsecond,
    List.append_nil]

end LedgerExport.Lines
