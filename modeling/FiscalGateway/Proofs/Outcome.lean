import Mathlib.Data.List.Forall2

/-!
# Outcomes — when a sequence of checks succeeds

A check that is made of others succeeds exactly when each of them does. These facts turn such a
check into the conjunction of what it looks at.
-/

namespace FiscalGateway.Outcome

variable {ε ε' α β : Type}

/-- **A sequence succeeds exactly when each step succeeds in turn.** -/
@[simp] theorem bind_eq_ok {x : Except ε α} {f : α → Except ε β} {b : β} :
    x >>= f = .ok b ↔ ∃ a, x = .ok a ∧ f a = .ok b := by
  cases x <;> simp [bind, Except.bind]

@[simp] theorem map_eq_ok {x : Except ε α} {f : α → β} {b : β} :
    f <$> x = .ok b ↔ ∃ a, x = .ok a ∧ f a = b := by
  cases x <;> simp [Functor.map, Except.map]

/-- A renamed fault changes no success. -/
@[simp] theorem mapError_eq_ok {x : Except ε α} {f : ε → ε'} {a : α} :
    x.mapError f = .ok a ↔ x = .ok a := by
  constructor
  all_goals
    intro h
    cases x <;> cases h
    rfl

/-- A success is its value, once the faults are told apart no more. -/
theorem toOption_eq_some {x : Except ε α} {a : α} : x.toOption = some a ↔ x = .ok a := by
  cases x <;> simp [Except.toOption]

/-- What succeeds has a value. -/
theorem exists_of_isOk {x : Except ε α} (h : x.isOk = true) : ∃ a, x = .ok a := by
  cases x with
  | ok a => exact ⟨a, rfl⟩
  | error e => cases h

/-- It fails exactly when one of its steps does. -/
theorem bind_eq_error {x : Except ε α} {f : α → Except ε β} {e : ε} :
    x >>= f = .error e ↔ x = .error e ∨ ∃ a, x = .ok a ∧ f a = .error e := by
  cases x <;> simp [bind, Except.bind]

/-- A renamed fault is a fault under another name. -/
theorem mapError_eq_error {x : Except ε α} {f : ε → ε'} {e : ε'} :
    x.mapError f = .error e ↔ ∃ fault, x = .error fault ∧ f fault = e := by
  constructor
  · intro h
    cases x with
    | ok a => cases h
    | error fault => exact ⟨fault, rfl, Except.error.inj h⟩
  · rintro ⟨fault, rfl, rfl⟩
    rfl

@[simp] theorem pure_eq_ok {a b : α} : (pure a : Except ε α) = .ok b ↔ a = b := by
  simp [pure, Except.pure]

@[simp] theorem throw_ne_ok {e : ε} {a : α} : (throw e : Except ε α) ≠ .ok a := by
  simp [throw, throwThe, MonadExceptOf.throw]

/-- A guard in front of other steps lets pass exactly what it asks for. -/
theorem guard_eq_ok {p : Prop} [Decidable p] {e : ε} {rest : Except ε β} {b : β} :
    (if ¬p then (throw e >>= fun _ : Unit => rest) else rest) = .ok b ↔ p ∧ rest = .ok b := by
  by_cases hp : p
  · simp [hp]
  · simp [hp]

/-- Every entry is read in its turn. -/
theorem mapM_eq_ok {f : α → Except ε β} {xs : List α} {ys : List β} :
    xs.mapM f = .ok ys ↔ List.Forall₂ (fun x y => f x = .ok y) xs ys := by
  induction xs generalizing ys with
  | nil => rw [List.mapM_nil, pure_eq_ok, List.forall₂_nil_left_iff, eq_comm]
  | cons x xs ih =>
    simp only [List.mapM_cons, bind_eq_ok, pure_eq_ok, ih, List.forall₂_cons_left_iff]
    constructor
    · rintro ⟨y, hy, ys, hys, rfl⟩
      exact ⟨y, ys, hy, hys, rfl⟩
    · rintro ⟨y, ys, hy, hys, rfl⟩
      exact ⟨y, hy, ys, hys, rfl⟩

theorem exists_of_mapM_eq_error {f : α → Except ε β} {xs : List α} {e : ε}
    (h : xs.mapM f = .error e) : ∃ x ∈ xs, f x = .error e := by
  induction xs with
  | nil => contradiction
  | cons x xs ih =>
    rw [List.mapM_cons, bind_eq_error] at h
    rcases h with h | ⟨_, -, h⟩
    · exact ⟨x, List.mem_cons_self .., h⟩
    · rcases bind_eq_error.1 h with h | ⟨_, -, h⟩
      · obtain ⟨y, hy, hfault⟩ := ih h
        exact ⟨y, List.mem_cons_of_mem x hy, hfault⟩
      · contradiction

/-- A check of every entry, with a value for each, succeeds if all entries pass. -/
theorem mapM_check_eq_ok {check : α → Except ε Unit} {f : α → β} {xs : List α} {ys : List β} :
    xs.mapM (fun x => do check x; return f x) = .ok ys ↔
      (∀ x ∈ xs, check x = .ok ()) ∧ xs.map f = ys := by
  have hstep (x : α) (y : β) :
      (do check x; return f x : Except ε β) = .ok y ↔ check x = .ok () ∧ f x = y := by
    rw [bind_eq_ok]
    exact ⟨fun ⟨_, hcheck, hvalue⟩ => ⟨hcheck, pure_eq_ok.1 hvalue⟩,
      fun ⟨hcheck, hvalue⟩ => ⟨(), hcheck, pure_eq_ok.2 hvalue⟩⟩
  have hmap : List.Forall₂ (fun x y => f x = y) xs ys ↔ xs.map f = ys := by
    rw [← List.forall₂_map_left_iff (R := Eq), List.forall₂_eq_eq_eq]
  simp only [mapM_eq_ok, hstep, List.forall₂_and_left, hmap]

end FiscalGateway.Outcome
