/-!
# Steps that may fail

A chain of steps succeeds if each of them does, and what it gives is worked out
from what they gave. These equivalences take a chain apart without opening its
steps. A list of steps fails with the error of the first one that fails.
-/

namespace LedgerExport

variable {ε α β : Type}

/-! ## Chains of steps -/

@[simp] theorem ok_bind (a : α) (next : α → Except ε β) : Except.ok a >>= next = next a := rfl

@[simp] theorem map_ok (f : α → β) (a : α) : (Except.ok a : Except ε α).map f = .ok (f a) := rfl

@[simp] theorem map_error (f : α → β) (e : ε) :
    (Except.error e : Except ε α).map f = .error e := rfl

theorem bind_eq_ok_iff {step : Except ε α} {next : α → Except ε β} {b : β} :
    step >>= next = .ok b ↔ ∃ a, step = .ok a ∧ next a = .ok b := by
  cases step with
  | ok a =>
      constructor
      · exact fun h => ⟨a, rfl, h⟩
      · rintro ⟨_, ⟨⟩, h⟩
        exact h
  | error e =>
      constructor
      · intro h
        cases h
      · rintro ⟨_, h, _⟩
        cases h

theorem bind_eq_error_iff {step : Except ε α} {next : α → Except ε β} {e : ε} :
    step >>= next = .error e ↔ step = .error e ∨ ∃ a, step = .ok a ∧ next a = .error e := by
  cases step with
  | ok a =>
      constructor
      · exact fun h => .inr ⟨a, rfl, h⟩
      · rintro (h | ⟨_, ha, h⟩)
        · cases h
        · cases ha
          exact h
  | error fault =>
      constructor
      · intro h
        cases h
        exact .inl rfl
      · rintro (h | ⟨_, h, _⟩)
        · cases h
          rfl
        · cases h

theorem pure_eq_ok_iff {a b : α} : (pure a : Except ε α) = .ok b ↔ a = b := by
  constructor
  · exact fun h => Except.ok.inj h
  · rintro rfl
    rfl

theorem bind_pure_eq_error_iff {step : Except ε α} {f : α → β} {e : ε} :
    (step >>= fun a => pure (f a)) = .error e ↔ step = .error e := by
  rw [bind_eq_error_iff]
  constructor
  · rintro (h | ⟨_, _, h⟩)
    · exact h
    · cases h
  · exact .inl

theorem map_eq_ok_iff {step : Except ε α} {f : α → β} {b : β} :
    step.map f = .ok b ↔ ∃ a, step = .ok a ∧ f a = b := by
  cases step with
  | ok a => simp
  | error e => simp

theorem map_eq_error_iff {step : Except ε α} {f : α → β} {e : ε} :
    step.map f = .error e ↔ step = .error e := by
  cases step with
  | ok a => simp
  | error e => simp

theorem exists_ok_iff {step : Except ε α} : (∃ a, step = .ok a) ↔ ∀ e, step ≠ .error e := by
  cases step with
  | ok a => simp
  | error e => simp

theorem mapError_eq_ok_iff {ε' : Type} {step : Except ε α} {f : ε → ε'} {a : α} :
    step.mapError f = .ok a ↔ step = .ok a := by
  cases step with
  | ok b =>
      constructor
      · intro h
        cases h
        rfl
      · intro h
        cases h
        rfl
  | error e =>
      constructor
      · intro h
        cases h
      · intro h
        cases h

theorem toOption_eq_some_iff {step : Except ε α} {a : α} :
    step.toOption = some a ↔ step = .ok a := by
  cases step with
  | ok b => simp [Except.toOption]
  | error e => simp [Except.toOption]

/-! ## Lists of steps -/

/-- The error of the first step of a list that fails. -/
def FirstError (steps : List (Except ε α)) (e : ε) : Prop :=
  ∃ i : Nat, steps[i]? = some (.error e) ∧ ∀ j < i, ∀ fault, steps[j]? ≠ some (.error fault)

section Lists

variable {steps : List (Except ε α)} {e : ε}

theorem not_firstError_nil : ¬ FirstError ([] : List (Except ε α)) e := by
  rintro ⟨i, hi, -⟩
  cases hi

theorem firstError_error_cons {fault : ε} :
    FirstError (.error fault :: steps) e ↔ fault = e := by
  constructor
  · rintro ⟨_ | i, hi, hfirst⟩
    · exact Except.error.inj (Option.some.inj hi)
    · exact absurd rfl (hfirst 0 (Nat.succ_pos i) fault)
  · rintro rfl
    exact ⟨0, rfl, fun j hj => absurd hj (Nat.not_lt_zero j)⟩

theorem firstError_ok_cons {a : α} : FirstError (.ok a :: steps) e ↔ FirstError steps e := by
  constructor
  · rintro ⟨_ | i, hi, hfirst⟩
    · cases hi
    · exact ⟨i, hi, fun j hj => hfirst (j + 1) (Nat.succ_lt_succ hj)⟩
  · rintro ⟨i, hi, hfirst⟩
    refine ⟨i + 1, hi, ?_⟩
    rintro (_ | j) hj fault
    · nofun
    · exact hfirst j (Nat.lt_of_succ_lt_succ hj) fault

/-- Steps that are taken one after the other fail as the first of them that fails. -/
theorem mapM_eq_error_iff : steps.mapM id = .error e ↔ FirstError steps e := by
  induction steps with
  | nil => exact iff_of_false nofun not_firstError_nil
  | cons step steps ih =>
      rw [List.mapM_cons]
      cases step with
      | error fault =>
          rw [firstError_error_cons]
          exact Except.error.injEq fault e ▸ Iff.rfl
      | ok a =>
          rw [firstError_ok_cons, ← ih]
          exact bind_pure_eq_error_iff

/-- Steps that are taken one after the other succeed if each of them does. -/
theorem mapM_eq_ok_iff {values : List α} : steps.mapM id = .ok values ↔ steps = values.map .ok := by
  induction steps generalizing values with
  | nil => rw [List.mapM_nil, pure_eq_ok_iff, eq_comm, eq_comm (a := []), List.map_eq_nil_iff]
  | cons step steps ih =>
      rw [List.mapM_cons, bind_eq_ok_iff]
      simp only [bind_eq_ok_iff, pure_eq_ok_iff, ih]
      constructor
      · rintro ⟨value, hstep, more, rfl, rfl⟩
        exact congrArg (· :: _) hstep
      · intro h
        obtain ⟨value, more, rfl, rfl, rfl⟩ := List.map_eq_cons_iff.mp h.symm
        exact ⟨value, rfl, more, rfl, rfl⟩

theorem exists_firstError_iff :
    (∃ e, FirstError steps e) ↔ ∃ (i : Nat) (e : ε), steps[i]? = some (.error e) := by
  induction steps with
  | nil => simp [not_firstError_nil]
  | cons step steps ih =>
      cases step with
      | error fault =>
          simp only [firstError_error_cons]
          exact iff_of_true ⟨fault, rfl⟩ ⟨0, fault, rfl⟩
      | ok a =>
          simp only [firstError_ok_cons, ih]
          constructor
          · rintro ⟨i, e, hi⟩
            exact ⟨i + 1, e, hi⟩
          · rintro ⟨_ | i, e, hi⟩
            · cases hi
            · exact ⟨i, e, hi⟩

end Lists

/-! ## Two steps -/

/-- Two steps fail with one error, or both succeed with results that are related. -/
inductive Alike (R : α → β → Prop) : Except ε α → Except ε β → Prop
  | error (e : ε) : Alike R (.error e) (.error e)
  | ok {a : α} {b : β} : R a b → Alike R (.ok a) (.ok b)

theorem alike_of_map_eq {f : α → β} {step step' : Except ε α} (h : step.map f = step'.map f) :
    Alike (fun a a' => f a = f a') step step' := by
  cases step with
  | ok a =>
      cases step' with
      | ok a' => exact .ok (Except.ok.inj h)
      | error e => cases h
  | error e =>
      cases step' with
      | ok a' => cases h
      | error e' =>
          cases h
          exact .error e

end LedgerExport
